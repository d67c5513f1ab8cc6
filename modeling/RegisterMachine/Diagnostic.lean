import RegisterMachine.Fault

/-!
# Diagnostics

Why a line, a keyword or an operand was rejected. A diagnostic has a kind, a detail and, once it
is known, the line it belongs to; line number 0 means that no line is attached.

* `Diagnostic.make`, `Diagnostic.ofKind`: new diagnostics.
* `Diagnostic.atLine`: the same complaint attached to a line.
* `Diagnostic.message`: the text shown to the user.
* `Failure`: a rejection or a fault.
-/

namespace RegisterMachine

inductive Diagnostic.Kind where
  | machine
  | unknownInstruction
  | inputType
  | inputRange
  | format
deriving DecidableEq, Repr

/-- The detail of a diagnostic that gives none of its own. -/
def Diagnostic.Kind.summary : Diagnostic.Kind → String
  | machine => "Machine error"
  | unknownInstruction => "Unknown instruction"
  | inputType => "Invalid input type"
  | inputRange => "Input outside valid range"
  | format => "Invalid instruction format"

structure Diagnostic where
  kind : Diagnostic.Kind
  detail : String
  lineNum : Int
  lineText : String
deriving DecidableEq, Repr

namespace Diagnostic

/-- A diagnostic that belongs to no line yet and has the detail of its kind. -/
def ofKind (kind : Kind) : Diagnostic := ⟨kind, kind.summary, 0, ""⟩

/-- The same complaint about line `n`, whose number has to be writable. -/
def atLine (d : Diagnostic) (n : Int) (line : String) : Except Fault Diagnostic :=
  if Decimal.Fits n then .ok { d with lineNum := n, lineText := line }
  else .error .tooManyDigits

/-- An absent or empty `detail` gives way to the summary of the kind. -/
def make (kind : Kind) (detail : Option String) (n : Int) (line : String) :
    Except Fault Diagnostic :=
  let d := ofKind kind
  let d := match detail with
    | none => d
    | some s => if s.isEmpty then d else { d with detail := s }
  d.atLine n line

/-- The detail, with the line number in front if there is one. -/
def message (d : Diagnostic) : String :=
  if d.lineNum = 0 then d.detail else "Line " ++ Decimal.text d.lineNum ++ ": " ++ d.detail

end Diagnostic

/-- An operation ends early because its input is rejected or because a fault occurs. -/
inductive Failure where
  | rejected (d : Diagnostic)
  | fault (f : Fault)
deriving DecidableEq, Repr

end RegisterMachine
