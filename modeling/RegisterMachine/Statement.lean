import RegisterMachine.Instruction

/-!
# Statements

An assembled line: an instruction with the values of its operands, or nothing but a comment. The
source text stays with it. `Statement.quoted` shows every field of a statement on one line. A `Slot`
is what a line leaves behind: a statement, or nothing if it is blank.
-/

namespace RegisterMachine

structure Statement where
  /-- A statement without an instruction does nothing. -/
  instruction : Option Instruction
  operands : List Int
  /-- The line it was made from, if there was one. -/
  text : Option String
  comment : Option String

abbrev Slot : Type := Option Statement

/-! ## Showing a statement -/

namespace Text

/-- A parenthesised list; a single item is followed by a comma. -/
def tuple : List String → String
  | [] => "()"
  | [s] => "(" ++ s ++ ",)"
  | ss => "(" ++ joined ", " ss ++ ")"

def quotedOrNone : Option String → String
  | none => "None"
  | some s => quoted s

end Text

def OperandType.quoted (t : OperandType) : String :=
  "DataType(name=" ++ Text.quoted t.name ++ ", min=" ++ Decimal.text t.min ++
    ", max=" ++ Decimal.text t.max ++ ")"

def Operand.quoted (o : Operand) : String :=
  "OperandSpec(placeholder=" ++ Text.quoted o.placeholder ++ ", data_type=" ++ o.type.quoted ++ ")"

def Instruction.quoted (i : Instruction) : String :=
  "Instruction(keyword=" ++ Text.quoted i.keyword ++
    ", operands=" ++ Text.tuple (i.operands.map Operand.quoted) ++
    ", microcode=<function " ++ i.routine.label ++ ">" ++
    ", description=" ++ Text.quoted i.description ++ ")"

namespace Statement

def quoted (s : Statement) : String :=
  "AssemblyStatement(instruction=" ++ (s.instruction.map Instruction.quoted).getD "None" ++
    ", operands=" ++ Text.tuple (s.operands.map Decimal.text) ++
    ", text=" ++ Text.quotedOrNone s.text ++
    ", comment=" ++ Text.quotedOrNone s.comment ++ ")"

def isNoop (s : Statement) : Bool := s.instruction.isNone

/-- A statement is shown by its source text. -/
def shown (s : Statement) : Except Fault String :=
  match s.text with
  | none => .error .notShowable
  | some text => .ok text

end Statement

/-! ## Comparing statements -/

/-- Equal in every field, with routines compared as `Routine.same` does. -/
def Instruction.same (i j : Instruction) : Bool :=
  i.keyword == j.keyword && i.operands == j.operands && i.routine.same j.routine &&
    i.description == j.description

def Statement.same (s t : Statement) : Bool :=
  (match s.instruction, t.instruction with
    | none, none => true
    | some i, some j => i.same j
    | _, _ => false) &&
    s.operands == t.operands && s.text == t.text && s.comment == t.comment

/-- Any two empty slots agree. -/
def Slot.same : Slot → Slot → Bool
  | none, none => true
  | some s, some t => s.same t
  | _, _ => false

end RegisterMachine
