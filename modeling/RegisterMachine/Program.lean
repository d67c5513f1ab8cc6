import RegisterMachine.Machine

/-!
# Programs

A program is a source text run line by line on a machine of its own. Every line that is not blank
adds the register summary to the output; the first rejected line ends the run with an error entry,
and a run that reaches the end adds `HALT`. A program can be run again: machine and output go on
from where they are.
-/

namespace RegisterMachine

structure Program where
  input : List String
  output : List String
  /-- The rejected line of the last run that met one. -/
  error : Option Diagnostic
  machine : Machine

namespace Program

def ofText (source : String) (trace : Bool) : Program where
  input := Text.lines source
  output := []
  error := none
  machine := Machine.standard.setTracing trace

def halted (p : Program) : Bool := p.error.isNone

def say (p : Program) (entry : String) : Program := { p with output := p.output ++ [entry] }

/-- Appends a statement, runs the machine and notes its registers. Every stored statement is
executed at most once, so their number bounds the run. -/
def execute (p : Program) (s : Statement) : Outcome Program Unit :=
  let ran := (p.machine.append (.sequence [some s])).andThen fun _ m => m.run m.count
  (ran.within fun m => { p with machine := m }).andThen fun _ p' =>
    (Outcome.ofFaulty p' p'.machine.summary).andThen fun text p' => .done (p'.say text) ()

def stop (p : Program) (n : Nat) (line : String) (d : Diagnostic) : Outcome Program Unit :=
  match d.atLine n line with
  | .error f => .faulty p f
  | .ok e =>
    ⟨{ p with error := some e }.say ("ERROR: " ++ d.message), [.programStopped n d], .ok ()⟩

def finish (p : Program) : Outcome Program Unit :=
  if Registers.Fit p.machine.registers then
    ⟨p.say "HALT", [.programHalted p.machine.count p.machine.registers], .ok ()⟩
  else .faulty p .tooManyDigits

/-- Runs lines in order, the first of them being line `n`. -/
def runLines (p : Program) (n : Nat) : List String → Outcome Program Unit
  | [] => p.finish
  | line :: rest =>
    match p.machine.language.assembleLine line with
    | .error d => p.stop n line d
    | .ok none => p.runLines (n + 1) rest
    | .ok (some s) => (p.execute s).andThen fun _ p' => p'.runLines (n + 1) rest

/-- Runs all lines of the input on the machine as it is. -/
def run (p : Program) : Outcome Program Unit := p.runLines 1 p.input

def runText (source : String) (trace : Bool) : Outcome Program Unit := (ofText source trace).run

/-- Runs a program `n` more times, as long as no run fails. -/
def rerun (p : Program) : Nat → Outcome Program Unit
  | 0 => .done p ()
  | n + 1 => p.run.andThen fun _ p' => p'.rerun n

end Program

end RegisterMachine
