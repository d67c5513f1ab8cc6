import RegisterMachine.Proofs.Commuting
import RegisterMachine.Proofs.Operation
import RegisterMachine.Proofs.Program

/-!
# Tracing changes nothing else

`Machine.untraced` forgets the trace of a machine and turns tracing off. It goes along with every
operation that is not about the trace: the operation gives the same answer, reports the same events
and leaves the same machine, whether the trace is forgotten before or after it
(`Operation.apply_untraced`), and failures are no exception. Operations on the trace disappear under
it (`Operation.untraced_apply`). Hence sequences of operations that differ in nothing but operations
on the trace cannot be told apart by anything but the trace (`tracing_transparent`), and a program
runs as well with a trace as without.
-/

namespace RegisterMachine

/-! ## Machines without their trace -/

namespace Machine

/-- The machine with an empty trace, to which nothing is added. -/
def untraced (m : Machine) : Machine := { m with tracing := false, trace := [] }

theorem setRegister_untraced (m : Machine) (index value : Int) :
    m.untraced.setRegister index value = (m.setRegister index value).map untraced := by
  show (Registers.write m.registers index value >>= _) = Except.map _ (_ >>= _)
  cases Registers.write m.registers index value <;> rfl

theorem perform_untraced (m : Machine) (operands : List Int) (as : List Action) :
    m.untraced.perform operands as = (m.perform operands as).map untraced id := by
  obtain ⟨effects, r, h⟩ := exists_completes (m.view operands) as
  have h' : Completes (m.untraced.view operands) as effects r := h
  rw [perform_of_completes h, perform_of_completes h']
  rfl

theorem invoke_untraced (m : Machine) (i : Instruction) (operands : List Int) :
    m.untraced.invoke i operands = (m.invoke i operands).map untraced id := by
  unfold invoke
  cases i.routine.accepts operands.length with
  | error f => rfl
  | ok => exact m.perform_untraced operands _

/-! ## Steps and runs -/

theorem untraced_keepTrace (m : Machine) (e : Execution) :
    (m.keepTrace e).untraced = m.untraced := by
  unfold keepTrace
  split <;> rfl

theorem append_untraced (m : Machine) (offer : Offer) :
    m.untraced.append offer = (m.append offer).within untraced := by
  cases offer <;> rfl

theorem commutes_untraced : Commutes untraced where
  registers _ := rfl
  statements _ := rfl
  pc _ := rfl
  setPc _ _ := rfl
  applied _ _ := rfl
  keepTrace m e := (m.untraced_keepTrace e).symm
  append := append_untraced

/-! ## Loading and direct execution -/

theorem load_untraced (m : Machine) (source : String) :
    m.untraced.load source = (m.load source).within untraced := by
  have hlanguage : m.untraced.language = m.language := rfl
  unfold load
  rw [hlanguage]
  rcases m.language.assemble source with ⟨e | ss, log⟩ <;> rfl

theorem executeDirectly_untraced (m : Machine) (i : Instruction) (tokens : List (Option String)) :
    m.untraced.executeDirectly i tokens = (m.executeDirectly i tokens).within untraced := by
  unfold executeDirectly
  cases i.readOperands tokens with
  | error d => rfl
  | ok values =>
    dsimp only
    rw [invoke_untraced]
    exact (Outcome.within_ofFaulty (m.invoke i values).1 (m.invoke i values).2 untraced).symm

end Machine

/-! ## Operations -/

namespace Operation

/-- Is the operation about the trace and nothing else? -/
def isTracing : Operation → Bool
  | setTracing _ | showTrace | clearTrace => true
  | _ => false

/-- Nothing but the trace is changed by an operation on it. -/
theorem untraced_apply {op : Operation} (h : op.isTracing = true) (m : Machine) :
    (op.apply m).state.untraced = m.untraced := by
  cases op with
  | setTracing | showTrace | clearTrace => rfl
  | lookup | readOperands | assembleLine | assemble | load | append | execute | setPc | setRegister
  | step | run | respond => cases h

/-- Any other operation does not look at the trace. -/
theorem apply_untraced {op : Operation} (h : op.isTracing = false) (m : Machine) :
    op.apply m.untraced = (op.apply m).within Machine.untraced := by
  cases op with
  | lookup | readOperands | assembleLine | assemble | setPc => rfl
  | load source => exact congrArg (Outcome.map _) (m.load_untraced source)
  | append offer => exact congrArg (Outcome.map _) (m.append_untraced offer)
  | execute i tokens => exact congrArg (Outcome.map _) (m.executeDirectly_untraced i tokens)
  | setRegister index value =>
    unfold apply
    dsimp only
    rw [m.setRegister_untraced index value]
    cases m.setRegister index value <;> rfl
  | step => exact congrArg (Outcome.map _) (Machine.commutes_untraced.step m)
  | run fuel => exact congrArg (Outcome.map _) (Machine.commutes_untraced.run m fuel)
  | respond fuel text =>
    exact congrArg (Outcome.map _)
      (Repl.respond_commutes Machine.commutes_untraced fuel rfl rfl fun _ => rfl)
  | setTracing | showTrace | clearTrace => cases h

end Operation

namespace Machine

/-- What can be seen of operations apart from the trace: those that are not about it, each with its
answer, its events and the machine it leaves. -/
def observations (m : Machine) : List Operation → List (Operation × Outcome Machine Answer)
  | [] => []
  | op :: ops =>
    (if op.isTracing then [] else [(op, (op.apply m).within untraced)]) ++
      (op.apply m).state.observations ops

/-- The operations on the trace can be left out, and so can the trace. -/
theorem observations_eq (m : Machine) (ops : List Operation) :
    m.observations ops = m.untraced.observations (ops.filter fun op => !op.isTracing) := by
  induction ops generalizing m with
  | nil => rfl
  | cons op ops ih =>
    rw [observations, ih, List.filter_cons]
    cases hop : op.isTracing with
    | true =>
      rw [op.untraced_apply hop]
      rfl
    | false =>
      rw [Bool.not_false, if_pos rfl, observations, hop, op.apply_untraced hop]
      rfl

end Machine

/-! ## Programs -/

namespace Program

/-- The program with the trace of its machine forgotten. -/
def untraced (p : Program) : Program := { p with machine := p.machine.untraced }

theorem execute_untraced (p : Program) (s : Statement) :
    p.untraced.execute s = (p.execute s).within untraced := by
  have hran : ((p.machine.untraced.append (.sequence [some s])).andThen fun _ m => m.run m.count) =
      ((p.machine.append (.sequence [some s])).andThen fun _ m => m.run m.count).within
        Machine.untraced := by
    rw [Machine.append_untraced]
    exact (Outcome.within_andThen _ _ fun _ m => Machine.commutes_untraced.run m m.count).symm
  unfold execute
  dsimp only
  rw [show p.untraced.machine = p.machine.untraced from rfl, hran]
  generalize ((p.machine.append (.sequence [some s])).andThen fun _ m => m.run m.count) = ran
  refine (Outcome.within_andThen (ran.within fun m => { p with machine := m }) untraced
    fun _ p' => ?_).symm
  show ((Outcome.ofFaulty p'.untraced p'.machine.summary).andThen _ : Outcome Program Unit) = _
  cases p'.machine.summary <;> rfl

theorem stop_untraced (p : Program) (n : Nat) (line : String) (d : Diagnostic) :
    p.untraced.stop n line d = (p.stop n line d).within untraced := by
  unfold stop
  cases d.atLine n line <;> rfl

theorem finish_untraced (p : Program) : p.untraced.finish = p.finish.within untraced := by
  have hregisters : p.untraced.machine.registers = p.machine.registers := rfl
  unfold finish
  rw [hregisters]
  split <;> rfl

theorem runLines_untraced (p : Program) (n : Nat) (ls : List String) :
    p.untraced.runLines n ls = (p.runLines n ls).within untraced := by
  induction ls generalizing p n with
  | nil => exact p.finish_untraced
  | cons line ls ih =>
    have hlanguage : p.untraced.machine.language = p.machine.language := rfl
    unfold runLines
    rw [hlanguage]
    rcases p.machine.language.assembleLine line with d | _ | s
    · exact p.stop_untraced n line d
    · exact ih p (n + 1)
    · dsimp only
      rw [execute_untraced]
      exact (Outcome.within_andThen _ _ fun _ p' => ih p' (n + 1)).symm

/-- A program runs without a trace as it does with one. -/
theorem runText_untraced (source : String) (trace : Bool) :
    runText source false = (runText source trace).within untraced :=
  (ofText source trace).runLines_untraced 1 (Text.lines source)

end Program

open Program (runText) in
/-- Operations on the trace may be put in or left out anywhere: every other operation gives the same
answer or failure, reports the same events and leaves the same registers, statements and program
counter. In particular a source text runs with a trace as it does without. -/
theorem tracing_transparent (m : Machine) (ops ops' : List Operation)
    (h : (ops.filter fun op => !op.isTracing) = ops'.filter fun op => !op.isTracing)
    (source : String) (hn : (Text.lines source).length < 10 ^ 4000) :
    m.observations ops = m.observations ops' ∧
      ∃ p q log, runText source true = ⟨p, log, .ok ()⟩ ∧ runText source false = ⟨q, log, .ok ()⟩ ∧
        p.output = q.output ∧ p.error = q.error ∧ p.machine.registers = q.machine.registers ∧
        p.machine.statements = q.machine.statements ∧ p.machine.pc = q.machine.pc := by
  refine ⟨?_, ?_⟩
  · rw [m.observations_eq ops, m.observations_eq ops', h]
  · obtain ⟨log, hrun⟩ := Program.run_eq_settle (p := .ofText source true) rfl
      (Program.awaits_ofText source true) (by rwa [Nat.zero_add])
    have huntraced := Program.runText_untraced source true
    rw [runText, runText, hrun] at huntraced
    exact ⟨_, _, log, hrun, huntraced, rfl, rfl, rfl, rfl, rfl⟩

/-- A machine whose first register is as long as a number may be. The `ADD` makes it too long and
its step fails, whether a trace is kept or not; the next line of the program is run all the
same. -/
theorem tracing_transparent_too_long :
    ∃ (m : Machine) (ops ops' : List Operation),
      m.registers = [Decimal.firstTooLong - 1, 1] ∧
      ops = [.load "ADD\nSET 0 3", .step, .run 5] ∧
      ops' = [.setTracing true, .load "ADD\nSET 0 3", .showTrace, .step, .setTracing false,
        .clearTrace, .run 5, .showTrace] ∧
      ((ops.filter fun op => !op.isTracing) = ops'.filter fun op => !op.isTracing) ∧
      (Text.lines "ADD\nSET 0 3").length < 10 ^ 4000 ∧
      m.observations ops = m.observations ops' ∧
      (m.observations ops).map (fun o => (o.2.result.map fun _ => (), o.2.state.pc)) =
        [(.ok (), 0), (.error (.fault .tooManyDigits), 1), (.ok (), 2)] := by
  have hn : (Text.lines "ADD\nSET 0 3").length < 10 ^ 4000 := Decimal.lt_ten_pow (by decide)
  have hops : ([.load "ADD\nSET 0 3", .step, .run 5].filter fun op : Operation => !op.isTracing) =
      [Operation.setTracing true, .load "ADD\nSET 0 3", .showTrace, .step, .setTracing false,
        .clearTrace, .run 5, .showTrace].filter fun op => !op.isTracing := rfl
  refine ⟨{ Machine.standard with registers := [Decimal.firstTooLong - 1, 1] }, _, _, rfl, rfl, rfl,
    hops, hn, (tracing_transparent _ _ _ hops _ hn).1, ?_⟩
  decide +kernel

end RegisterMachine
