import RegisterMachine.Diagnostic
import RegisterMachine.Log.Record
import RegisterMachine.Offer
import RegisterMachine.Text.Blank

/-!
# Events

What the machine and its drivers report while they work. An event holds what happened;
`Event.record` is the log record for it, with the wording.

* `Execution`: one executed statement with the registers after it, `Execution.traceLine` is its
  line in a trace.
* `Event`: everything that is logged.
-/

namespace RegisterMachine

structure Execution where
  /-- Where the statement stood. -/
  pc : Int
  /-- Its source text. -/
  text : String
  /-- The registers afterwards. -/
  registers : List Int
deriving DecidableEq, Repr

namespace Execution

def index (e : Execution) : String := Decimal.zeroPadded 4 e.pc.toNat

def traceLine (e : Execution) : String :=
  e.index ++ ": " ++ Text.trimmed e.text ++ " -> " ++ Registers.text e.registers

end Execution

inductive Event where
  /-- A line of a source text was rejected. -/
  | assemblyFailed (line : Nat) (d : Diagnostic)
  /-- Statements were stored. -/
  | appended (added count : Nat) (pc : Int)
  /-- Something that is no sequence of statements was offered. -/
  | offerIgnored (offer : Offer)
  | executed (e : Execution)
  /-- A program met a line that was rejected. -/
  | programStopped (line : Nat) (d : Diagnostic)
  /-- A program ran to its end. -/
  | programHalted (count : Nat) (registers : List Int)
  /-- A session rejected a line. -/
  | lineRejected (text : Option String) (d : Diagnostic)

namespace Event

def level : Event → Int
  | programStopped .. => Log.Level.warning
  | programHalted .. => Log.Level.info
  | _ => Log.Level.debug

/-- The name of the logger that an event is given to. -/
def logger : Event → String
  | assemblyFailed .. => "asmvm.assembly"
  | appended .. | offerIgnored .. | executed .. => "asmvm.machine"
  | programStopped .. | programHalted .. => "asmvm.program"
  | lineRejected .. => "asmvm.repl"

def message : Event → String
  | assemblyFailed line d =>
    "Assembly failed at line " ++ Decimal.text line ++ ": " ++ d.message
  | appended added count pc =>
    "Appended " ++ Decimal.text added ++ " statement(s), count=" ++ Decimal.text count ++
      " pc=" ++ Decimal.text pc
  | offerIgnored offer => "append ignored: " ++ offer.quoted ++ " is not a statement sequence"
  | executed e =>
    e.index ++ ": " ++ Text.padRight 20 (Text.trimmed e.text) ++ " " ++ Registers.text e.registers
  | programStopped line d =>
    "Program stopped at line " ++ Decimal.text line ++ ": " ++ d.message
  | programHalted count registers =>
    "Program halted after " ++ Decimal.text count ++ " statement(s): " ++ Registers.text registers
  | lineRejected text d => "REPL rejected " ++ Text.quotedOrNone text ++ ": " ++ d.message

def record (e : Event) : Log.Record := ⟨e.level, e.logger, e.message⟩

end Event

end RegisterMachine
