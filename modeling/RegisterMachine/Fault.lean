import RegisterMachine.Decimal
import RegisterMachine.Text.Quoted
import RegisterMachine.Text.Lines

/-!
# Faults

What can go wrong besides a rejected line: a number too long to write, a register that does not
exist, a routine called with the wrong operands, a statement that is not there. `Fault.message` is
the wording of each cause.
-/

namespace RegisterMachine

inductive Fault where
  /-- A number of more than `Decimal.digitLimit` digits was to be written. -/
  | tooManyDigits
  /-- A range whose lower bound exceeds its upper bound. -/
  | emptyRange (name : String) (min max : Int)
  /-- A register that does not exist was read. -/
  | readOutside
  /-- A register that does not exist was written. -/
  | writeOutside
  /-- An operand that was not given was read. -/
  | operandOutside
  /-- An index beyond 64 bits. -/
  | indexTooWide
  /-- A register count beyond 64 bits. -/
  | countTooWide
  /-- A routine called without its operands `missing`. -/
  | missingOperands (routine : String) (missing : List String)
  /-- A routine that takes `takes` arguments called with `given`. -/
  | extraOperands (routine : String) (takes given : Nat)
  /-- A place of the stored program that holds no statement was executed. -/
  | noStatement
  /-- The source text of a statement that has none was to be reported. -/
  | noText
  /-- A statement without source text was to be shown. -/
  | notShowable
  /-- A run that did not end within the steps it was allowed. -/
  | stepLimit
deriving DecidableEq, Repr

def Fault.message : Fault → String
  | .tooManyDigits =>
    "Exceeds the limit (4300 digits) for integer string conversion; " ++
      "use sys.set_int_max_str_digits() to increase the limit"
  | .emptyRange name min max =>
    "DataType " ++ name ++ ": min " ++ Decimal.text min ++ " > max " ++ Decimal.text max
  | .readOutside => "list index out of range"
  | .writeOutside => "list assignment index out of range"
  | .operandOutside => "tuple index out of range"
  | .indexTooWide | .countTooWide => "cannot fit 'int' into an index-sized integer"
  | .missingOperands routine missing =>
    routine ++ "() missing " ++ Decimal.text missing.length ++ " required positional " ++
      (if missing.length = 1 then "argument: " else "arguments: ") ++
      Text.joined " and " (missing.map Text.quoted)
  | .extraOperands routine takes given =>
    routine ++ "() takes " ++ Decimal.text takes ++
      (if takes = 1 then " positional argument but " else " positional arguments but ") ++
      Decimal.text given ++ " were given"
  | .noStatement => "'NoneType' object has no attribute 'execute'"
  | .noText => "'NoneType' object has no attribute 'strip'"
  | .notShowable => "__str__ returned non-string (type NoneType)"
  | .stepLimit => "the run did not end within the allowed number of steps"

/-- Is the fault about an index, of a register or of an operand? -/
def Fault.isIndex : Fault → Bool
  | .readOutside | .writeOutside | .operandOutside | .indexTooWide => true
  | _ => false

/-- The text of an integer that keeps to the digit limit. -/
def Decimal.write (v : Int) : Except Fault String :=
  if Fits v then .ok (text v) else .error .tooManyDigits

end RegisterMachine
