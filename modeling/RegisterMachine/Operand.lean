import RegisterMachine.Diagnostic
import RegisterMachine.Text.Blank

/-!
# Operands

An `OperandType` is a named closed interval of integers, an `Operand` gives one a placeholder.
`OperandType.read` turns the text of an operand into a value of the interval.
-/

namespace RegisterMachine

/-- A named, inclusive range of integers. -/
structure OperandType where
  name : String
  min : Int
  max : Int
  min_le_max : min ≤ max
deriving DecidableEq, Repr

namespace OperandType

/-- A range needs a lower bound that does not exceed the upper one. -/
def make (name : String) (min max : Int) : Except Fault OperandType :=
  if h : min ≤ max then .ok ⟨name, min, max, h⟩
  else if Decimal.Fits min ∧ Decimal.Fits max then .error (.emptyRange name min max)
  else .error .tooManyDigits

def wordMax : Int := 0xFFFF

def word : OperandType := ⟨"word", 0, wordMax, by decide⟩

/-- A register index of a machine with `count` registers. -/
def register (count : Int) : Except Fault OperandType := make "register" 0 (count - 1)

def registerUpTo (last : Nat) : OperandType := ⟨"register", 0, last, Int.natCast_nonneg last⟩

theorem register_succ (last : Nat) : register (last + 1) = .ok (registerUpTo last) := by
  have h : (0 : Int) ≤ last + 1 - 1 := by omega
  simp [register, make, registerUpTo]

def describe (t : OperandType) : Except Fault String := do
  let min ← Decimal.write t.min
  let max ← Decimal.write t.max
  return t.name ++ " [" ++ min ++ " - " ++ max ++ "]"

/-- The value of a numeral within the bounds. Blanks around it are skipped, and a numeral of more
significant digits than the limit counts as out of range. -/
def read (t : OperandType) (source : Option String) : Except Diagnostic Int :=
  match source.bind fun s => Decimal.Numeral.scan? (Text.trim s.toList) with
  | none => .error (.ofKind .inputType)
  | some n =>
    if n.Fits ∧ t.min ≤ n.value ∧ n.value ≤ t.max then .ok n.value
    else .error (.ofKind .inputRange)

end OperandType

/-- One operand of an instruction: its placeholder in help texts and its type. -/
structure Operand where
  placeholder : String
  type : OperandType
deriving DecidableEq, Repr

def Operand.describe (o : Operand) : Except Fault String := do
  return o.placeholder ++ ": " ++ (← o.type.describe)

end RegisterMachine
