import RegisterMachine.Language
import RegisterMachine.Outcome

/-!
# The register machine

A machine has registers, stored statements and a program counter. One step fetches the statement
at the program counter, advances the counter and then executes the statement, so that a statement
may set the counter itself. Outside the stored statements the machine is halting, which is where
runs end.

* `Machine.make`, `Machine.standard`: new machines.
* `Machine.append`: more statements at the end of the stored ones.
* `Machine.step`: one statement. It may fail after part of its effects, and keeps them.
* `Machine.run`: steps until the machine is halting, within an allowed number of steps.
-/

namespace RegisterMachine

structure Machine where
  registers : List Int
  /-- The stored program. -/
  statements : List Slot
  pc : Int
  language : Language
  /-- Are executed statements kept in the trace? -/
  tracing : Bool
  trace : List Execution

namespace Machine

def registerCount : Nat := 2

def wordSize : Nat := 2

def wordBits : Nat := wordSize * 8

/-- An idle machine with all registers zero. -/
def blank (count : Nat) (language : Language) : Machine where
  registers := List.replicate count 0
  statements := []
  pc := 0
  language := language
  tracing := false
  trace := []

/-- A machine with `count` registers and the built-in instructions for them. -/
def make (count : Int) : Except Fault Machine :=
  if Registers.isIndex count then do
    let set ← Instruction.set count
    return blank count.toNat ⟨[set, .add], commentMark⟩
  else .error .countTooWide

def standardLanguage : Language :=
  ⟨[.setWith (.registerUpTo 1), .add], commentMark⟩

def standard : Machine := blank registerCount standardLanguage

example : make registerCount = .ok standard := by rfl

/-! ## The state -/

def count (m : Machine) : Nat := m.statements.length

def halting (m : Machine) : Bool := m.pc < 0 || (m.count : Int) ≤ m.pc

/-- What stands at the program counter. -/
def fetch? (m : Machine) : Option Slot :=
  if m.halting then none else m.statements[m.pc.toNat]?

def next? (m : Machine) : Option Statement := m.fetch?.join

def summary (m : Machine) : Except Fault String := Registers.summary m.registers

/-- Any value may be set; one outside the stored statements halts the machine. -/
def setPc (m : Machine) (value : Int) : Machine := { m with pc := value }

def setRegister (m : Machine) (index value : Int) : Except Fault Machine := do
  return { m with registers := ← Registers.write m.registers index value }

/-! ## Loading -/

/-- Adds the statements of a sequence at the end and ignores any other offer. The program counter
does not move. -/
def append (m : Machine) : Offer → Outcome Machine Unit
  | .sequence ss =>
    let m' := { m with statements := m.statements ++ ss }
    ⟨m', [.appended ss.length m'.count m.pc], .ok ()⟩
  | offer => ⟨m, [.offerIgnored offer], .ok ()⟩

/-- Appends the statements of a source text, or nothing if a line of it is rejected. -/
def load (m : Machine) (source : String) : Outcome Machine Unit :=
  match m.language.assemble source with
  | (.error e, log) => ⟨m, log, .error e⟩
  | (.ok ss, log) => (m.append (.sequence (ss.map some))).after log

/-! ## Execution -/

/-- What the actions of a statement with these operands can see. -/
def view (m : Machine) (operands : List Int) : View :=
  ⟨operands, m.registers, m.count, m.pc⟩

/-- One action. It has no effect if it, or reading one of its arguments, fails. -/
def act (m : Machine) (operands : List Int) : Action → Except Fault Machine
  | .setPc value => do
    return m.setPc (← value.read (m.view operands))
  | .setRegister index value => do
    let i ← index.read (m.view operands)
    let v ← value.read (m.view operands)
    m.setRegister i v

/-- The actions in order, up to the first that fails. -/
def perform (m : Machine) (operands : List Int) : List Action → Machine × Except Fault Unit
  | [] => (m, .ok ())
  | a :: as =>
    match m.act operands a with
    | .error f => (m, .error f)
    | .ok m' => m'.perform operands as

def invoke (m : Machine) (i : Instruction) (operands : List Int) : Machine × Except Fault Unit :=
  match i.routine.accepts operands.length with
  | .error f => (m, .error f)
  | .ok () => m.perform operands i.routine.actions

def execute (m : Machine) (s : Statement) : Machine × Except Fault Unit :=
  match s.instruction with
  | none => (m, .ok ())
  | some i => m.invoke i s.operands

/-- Reads the operands of an instruction from tokens and runs its routine at once, without storing
a statement. -/
def executeDirectly (m : Machine) (i : Instruction) (tokens : List (Option String)) :
    Outcome Machine Unit :=
  match i.readOperands tokens with
  | .error d => ⟨m, [], .error (.rejected d)⟩
  | .ok values =>
    let (m', result) := m.invoke i values
    .ofFaulty m' result

def keepTrace (m : Machine) (e : Execution) : Machine :=
  if m.tracing then { m with trace := m.trace ++ [e] } else m

/-- The report on the statement `s`, which stood at `pc` and has been executed. It fails if the
statement has no source text or a register is too long to write. -/
def report (m : Machine) (pc : Int) (s : Statement) : Outcome Machine Unit :=
  match s.text with
  | none => .faulty m .noText
  | some text =>
    if Registers.Fit m.registers then
      let e : Execution := ⟨pc, text, m.registers⟩
      ⟨m.keepTrace e, [.executed e], .ok ()⟩
    else .faulty m .tooManyDigits

/-- Executes the statement at the program counter; a halting machine stays as it is. An empty slot
is a fault, met after the counter has moved past it. -/
def step (m : Machine) : Outcome Machine Unit :=
  match m.fetch? with
  | none => .done m ()
  | some none => .faulty (m.setPc (m.pc + 1)) .noStatement
  | some (some s) =>
    match (m.setPc (m.pc + 1)).execute s with
    | (m', .error f) => .faulty m' f
    | (m', .ok ()) => m'.report m.pc s

/-- Steps until the machine is halting, at most `fuel` times. -/
def run : Nat → Machine → Outcome Machine Unit
  | 0, m => if m.halting then .done m () else .faulty m .stepLimit
  | fuel + 1, m =>
    if m.halting then .done m () else m.step.andThen fun _ m' => m'.run fuel

/-! ## The trace -/

def setTracing (m : Machine) (enable : Bool) : Machine := { m with tracing := enable }

def traceText (m : Machine) : String := Text.joined "\n" (m.trace.map Execution.traceLine)

def clearTrace (m : Machine) : Machine := { m with trace := [] }

end Machine

end RegisterMachine
