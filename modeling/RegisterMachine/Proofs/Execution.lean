import RegisterMachine.Machine
import RegisterMachine.Proofs.Assembly

/-!
# What execution leaves alone

`Frame m m'`: the machine `m'` has the stored program, the language, the trace switch and the number
of registers of `m`. Actions, steps and runs of any routine keep to it, whether they fail or not
(`frame_step`, `frame_run`).

`Machine.visited` are the machines in front of each step of a run, and `Machine.executed` the
statements that are executed there.
-/

namespace RegisterMachine

theorem Registers.length_write {registers registers' : List Int} {i v : Int}
    (h : write registers i v = .ok registers') : registers'.length = registers.length := by
  obtain ⟨j, -, h⟩ := bind_eq_ok_iff.mp h
  cases h
  exact List.length_set

namespace Machine

/-- Only registers, program counter and trace of `m` may differ in `m'`. -/
structure Frame (m m' : Machine) : Prop where
  statements : m'.statements = m.statements
  language : m'.language = m.language
  tracing : m'.tracing = m.tracing
  width : m'.registers.length = m.registers.length

theorem Frame.refl (m : Machine) : Frame m m := ⟨rfl, rfl, rfl, rfl⟩

theorem Frame.trans {m m' m'' : Machine} (h : Frame m m') (h' : Frame m' m'') : Frame m m'' :=
  ⟨h'.statements.trans h.statements, h'.language.trans h.language, h'.tracing.trans h.tracing,
    h'.width.trans h.width⟩

theorem Frame.count {m m' : Machine} (h : Frame m m') : m'.count = m.count := by
  rw [Machine.count, h.statements, Machine.count]

theorem frame_setPc (m : Machine) (value : Int) : Frame m (m.setPc value) := ⟨rfl, rfl, rfl, rfl⟩

/-! ## Actions -/

theorem frame_of_setRegister {m m' : Machine} {index value : Int}
    (h : m.setRegister index value = .ok m') : Frame m m' := by
  obtain ⟨registers, hwrite, h⟩ := bind_eq_ok_iff.mp h
  cases h
  exact ⟨rfl, rfl, rfl, Registers.length_write hwrite⟩

theorem frame_of_act {m m' : Machine} {operands : List Int} {a : Action}
    (h : m.act operands a = .ok m') : Frame m m' := by
  cases a with
  | setPc value =>
    obtain ⟨v, -, h⟩ := bind_eq_ok_iff.mp h
    cases h
    exact frame_setPc m v
  | setRegister index value =>
    obtain ⟨i, -, h⟩ := bind_eq_ok_iff.mp h
    obtain ⟨v, -, h⟩ := bind_eq_ok_iff.mp h
    exact frame_of_setRegister h

theorem frame_perform (m : Machine) (operands : List Int) (as : List Action) :
    Frame m (m.perform operands as).1 := by
  induction as generalizing m with
  | nil => exact .refl m
  | cons a as ih =>
    unfold perform
    split
    · exact .refl m
    · next m' hact => exact (frame_of_act hact).trans (ih m')

theorem frame_invoke (m : Machine) (i : Instruction) (operands : List Int) :
    Frame m (m.invoke i operands).1 := by
  unfold invoke
  split
  · exact .refl m
  · exact frame_perform _ _ _

theorem frame_execute (m : Machine) (s : Statement) : Frame m (m.execute s).1 := by
  unfold execute
  split
  · exact .refl m
  · exact frame_invoke _ _ _

/-! ## Steps and runs -/

theorem keepTrace_eq (m : Machine) (e : Execution) :
    m.keepTrace e = { m with trace := if m.tracing then m.trace ++ [e] else m.trace } := by
  unfold keepTrace
  split <;> rfl

theorem state_report (m : Machine) (pc : Int) (s : Statement) :
    ∃ trace, (m.report pc s).state = { m with trace := trace } := by
  unfold report
  split
  · exact ⟨m.trace, rfl⟩
  · split
    · exact ⟨_, m.keepTrace_eq _⟩
    · exact ⟨m.trace, rfl⟩

theorem frame_report (m : Machine) (pc : Int) (s : Statement) : Frame m (m.report pc s).state := by
  obtain ⟨trace, htrace⟩ := m.state_report pc s
  rw [htrace]
  exact ⟨rfl, rfl, rfl, rfl⟩

theorem frame_step (m : Machine) : Frame m m.step.state := by
  unfold step
  split
  · exact .refl m
  · exact frame_setPc m _
  · next s _ =>
    have hexec := (frame_setPc m (m.pc + 1)).trans (frame_execute _ s)
    split
    · next m' f h =>
      rw [h] at hexec
      exact hexec
    · next m' h =>
      rw [h] at hexec
      exact hexec.trans (frame_report m' m.pc s)

theorem halting_eq_false_iff {m : Machine} : m.halting = false ↔ 0 ≤ m.pc ∧ m.pc < m.count := by
  simp [halting]

theorem next?_of_halting {m : Machine} (h : m.halting = true) : m.next? = none := by
  simp [next?, fetch?, h]

/-- Unless the machine is halting there is a slot at the program counter. -/
theorem fetch?_of_not_halting {m : Machine} (h : m.halting = false) :
    ∃ slot ∈ m.statements, m.fetch? = some slot := by
  have hpc : m.pc.toNat < m.statements.length := by
    have hpc := halting_eq_false_iff.mp h
    rw [count] at hpc
    omega
  refine ⟨m.statements[m.pc.toNat], List.getElem_mem hpc, ?_⟩
  simp [fetch?, h, hpc]

theorem step_of_halting {m : Machine} (h : m.halting = true) : m.step = .done m () := by
  simp only [step, fetch?, h, if_true]

/-- A run that goes on takes a step first, and ends with it if it fails. -/
theorem run_succ {m : Machine} (h : m.halting = false) (fuel : Nat) :
    m.run (fuel + 1) = m.step.andThen fun _ m' => m'.run fuel := by
  rw [run, h, if_neg Bool.false_ne_true]

theorem run_of_halting {m : Machine} (h : m.halting = true) (fuel : Nat) :
    m.run fuel = .done m () := by
  cases fuel <;> rw [run, if_pos h]

theorem frame_run (fuel : Nat) (m : Machine) : Frame m (m.run fuel).state := by
  induction fuel generalizing m with
  | zero =>
    unfold run
    split <;> exact .refl m
  | succ fuel ih =>
    cases hm : m.halting with
    | true =>
      rw [run_of_halting hm]
      exact .refl m
    | false =>
      rw [run_succ hm]
      unfold Outcome.andThen
      split
      · exact m.frame_step
      · exact m.frame_step.trans (ih m.step.state)

/-! ## Executed statements -/

/-- The machine in front of each step of a run. -/
def visited : Nat → Machine → List Machine
  | 0, _ => []
  | fuel + 1, m =>
    if m.halting then []
    else
      m :: match m.step.result with
        | .ok _ => m.step.state.visited fuel
        | .error _ => []

/-- The statements that a run executes, in order and as often as it does. -/
def executed (fuel : Nat) (m : Machine) : List Statement := (m.visited fuel).filterMap next?

theorem executed_succ {m : Machine} (h : m.halting = false) (fuel : Nat) :
    m.executed (fuel + 1) = m.next?.toList ++ match m.step.result with
      | .ok _ => m.step.state.executed fuel
      | .error _ => [] := by
  rw [executed, visited, h, if_neg Bool.false_ne_true, List.filterMap_cons]
  cases m.next? <;> cases m.step.result <;> rfl

theorem executed_of_halting {m : Machine} (h : m.halting = true) (fuel : Nat) :
    m.executed fuel = [] := by
  cases fuel with
  | zero => rfl
  | succ fuel => rw [executed, visited, if_pos h]; rfl

end Machine

end RegisterMachine
