import RegisterMachine.Proofs.Execution

/-!
# What one step does

The actions of a routine are carried out one after another, each with arguments that are read just
before it. An `Effect` is an action with the values of its arguments, and `Completes v actions
effects r` says what comes about if `v` is what can be seen: the effects of all actions, or those of
the actions in front of the first that fails, with the fault `r`.

* `Effect.pcAfter`, `Effect.registersAfter`: the program counter and the registers after effects.
  The last jump decides, and writes are done in order.
* `Statement.Completes`: the effects of a statement. It has none if it does nothing or if its
  routine refuses the operands.
* `step_of_completes`: a step advances the program counter, has the effects of the statement and
  reports them if no action failed. `step_effect` says this field by field.
-/

namespace RegisterMachine

/-! ## Positions of registers -/

namespace Registers

/-- The place of an index among `size` registers; a negative one counts from the back. -/
def position (size : Nat) (i : Int) : Nat := if i < 0 then (i + size).toNat else i.toNat

theorem locate_eq (outside : Fault) {size : Nat} {i : Int} (hwide : isIndex i = true) :
    locate outside size i =
      if -(size : Int) ≤ i ∧ i < size then .ok (position size i) else .error outside := by
  unfold locate position
  rw [if_pos hwide]
  by_cases hneg : i < 0
  · have hiff : (0 ≤ i + size ∧ i + size < size) ↔ (-(size : Int) ≤ i ∧ i < size) := by omega
    simp only [if_pos hneg, hiff]
  · have hiff : (0 ≤ i ∧ i < size) ↔ (-(size : Int) ≤ i ∧ i < size) := by omega
    simp only [if_neg hneg, hiff]

theorem locate_of_tooWide (outside : Fault) {size : Nat} {i : Int} (hwide : isIndex i = false) :
    locate outside size i = .error .indexTooWide := by
  rw [locate, hwide, if_neg Bool.false_ne_true]

section
variable {registers : List Int} {i : Int} (hwide : isIndex i = true) (v : Int)
include hwide

theorem write_of_inside (hin : -(registers.length : Int) ≤ i ∧ i < registers.length) :
    write registers i v = .ok (registers.set (position registers.length i) v) := by
  rw [write, locate_eq .writeOutside hwide, if_pos hin]
  rfl

theorem write_of_outside (hout : i < -(registers.length : Int) ∨ (registers.length : Int) ≤ i) :
    write registers i v = .error .writeOutside := by
  rw [write, locate_eq .writeOutside hwide, if_neg (by omega)]
  rfl

end

theorem write_of_tooWide (registers : List Int) {i : Int} (hwide : isIndex i = false) (v : Int) :
    write registers i v = .error .indexTooWide := by
  rw [write, locate_of_tooWide .writeOutside hwide]
  rfl

end Registers

/-! ## Effects -/

/-- An action with the values of its arguments. -/
inductive Effect where
  | setPc (value : Int)
  | setRegister (index value : Int)
deriving DecidableEq, Repr

namespace Effect

def target? : Effect → Option Int
  | setPc value => some value
  | setRegister .. => none

def write (registers : List Int) : Effect → List Int
  | setPc _ => registers
  | setRegister index value => registers.set (Registers.position registers.length index) value

/-- The last jump among the effects decides. -/
def pcAfter (pc : Int) (effects : List Effect) : Int := (effects.filterMap target?).getLast?.getD pc

/-- All writes among the effects, in order. -/
def registersAfter (registers : List Int) (effects : List Effect) : List Int :=
  effects.foldl write registers

theorem pcAfter_cons (pc : Int) (e : Effect) (effects : List Effect) :
    pcAfter pc (e :: effects) = pcAfter (e.target?.getD pc) effects := by
  cases e with
  | setPc value => simp [pcAfter, target?, List.getLast?_cons]
  | setRegister index value => simp [pcAfter, target?]

end Effect

def View.after (v : View) (e : Effect) : View :=
  { v with registers := e.write v.registers, pc := e.target?.getD v.pc }

namespace Action

/-- The effect of an action whose arguments can be read and whose register exists. -/
inductive Has (v : View) : Action → Effect → Prop
  | setPc {arg : Argument} {value : Int} (hvalue : arg.read v = .ok value) :
      Has v (.setPc arg) (.setPc value)
  | setRegister {index arg : Argument} {i value : Int} (hindex : index.read v = .ok i)
      (hvalue : arg.read v = .ok value) (hwide : Registers.isIndex i = true)
      (hin : -(v.registers.length : Int) ≤ i ∧ i < v.registers.length) :
      Has v (.setRegister index arg) (.setRegister i value)

/-- Why an action has no effect: the first thing that is wrong with it. -/
inductive Fails (v : View) : Action → Fault → Prop
  | target {arg : Argument} {f : Fault} (hvalue : arg.read v = .error f) :
      Fails v (.setPc arg) f
  | index {index arg : Argument} {f : Fault} (hindex : index.read v = .error f) :
      Fails v (.setRegister index arg) f
  | value {index arg : Argument} {i : Int} {f : Fault} (hindex : index.read v = .ok i)
      (hvalue : arg.read v = .error f) : Fails v (.setRegister index arg) f
  | tooWide {index arg : Argument} {i value : Int} (hindex : index.read v = .ok i)
      (hvalue : arg.read v = .ok value) (hwide : Registers.isIndex i = false) :
      Fails v (.setRegister index arg) .indexTooWide
  | outside {index arg : Argument} {i value : Int} (hindex : index.read v = .ok i)
      (hvalue : arg.read v = .ok value) (hwide : Registers.isIndex i = true)
      (hout : i < -(v.registers.length : Int) ∨ (v.registers.length : Int) ≤ i) :
      Fails v (.setRegister index arg) .writeOutside

theorem has_or_fails (v : View) (a : Action) : (∃ e, a.Has v e) ∨ ∃ f, a.Fails v f := by
  cases a with
  | setPc arg =>
    cases hvalue : arg.read v with
    | ok value => exact .inl ⟨_, .setPc hvalue⟩
    | error f => exact .inr ⟨f, .target hvalue⟩
  | setRegister index arg =>
    cases hindex : index.read v with
    | error f => exact .inr ⟨f, .index hindex⟩
    | ok i =>
      cases hvalue : arg.read v with
      | error f => exact .inr ⟨f, .value hindex hvalue⟩
      | ok value =>
        cases hwide : Registers.isIndex i with
        | false => exact .inr ⟨_, .tooWide hindex hvalue hwide⟩
        | true =>
          by_cases hin : -(v.registers.length : Int) ≤ i ∧ i < v.registers.length
          · exact .inl ⟨_, .setRegister hindex hvalue hwide hin⟩
          · exact .inr ⟨_, .outside hindex hvalue hwide (by omega)⟩

end Action

/-! ## Routines -/

/-- The effects that a list of actions completes. Each action sees what those before it did, and the
first that fails ends the list with its fault. -/
inductive Completes : View → List Action → List Effect → Option Fault → Prop
  | done (v : View) : Completes v [] [] none
  | failed {v : View} {a : Action} {as : List Action} {f : Fault} (hfails : a.Fails v f) :
      Completes v (a :: as) [] (some f)
  | effect {v : View} {a : Action} {as : List Action} {e : Effect} {effects : List Effect}
      {r : Option Fault} (hhas : a.Has v e) (hrest : Completes (v.after e) as effects r) :
      Completes v (a :: as) (e :: effects) r

theorem exists_completes (v : View) (as : List Action) : ∃ effects r, Completes v as effects r := by
  induction as generalizing v with
  | nil => exact ⟨[], none, .done v⟩
  | cons a as ih =>
    rcases a.has_or_fails v with ⟨e, hhas⟩ | ⟨f, hfails⟩
    · obtain ⟨effects, r, hrest⟩ := ih (v.after e)
      exact ⟨e :: effects, r, .effect hhas hrest⟩
    · exact ⟨[], some f, .failed hfails⟩

/-- The actions of a statement; none if it does nothing. -/
def Statement.actions (s : Statement) : List Action :=
  s.instruction.elim [] fun i => i.routine.actions

inductive Statement.Completes (s : Statement) (v : View) : List Effect → Option Fault → Prop
  | accepted {effects : List Effect} {r : Option Fault}
      (haccepts : ∀ i, s.instruction = some i → i.routine.accepts s.operands.length = .ok ())
      (h : RegisterMachine.Completes v s.actions effects r) : Statement.Completes s v effects r
  | refused {i : Instruction} {f : Fault} (hi : s.instruction = some i)
      (haccepts : i.routine.accepts s.operands.length = .error f) :
      Statement.Completes s v [] (some f)

theorem Statement.exists_completes (s : Statement) (v : View) :
    ∃ effects r, s.Completes v effects r := by
  obtain ⟨effects, r, h⟩ := RegisterMachine.exists_completes v s.actions
  cases hi : s.instruction with
  | none => exact ⟨effects, r, .accepted (by simp [hi]) h⟩
  | some i =>
    cases haccepts : i.routine.accepts s.operands.length with
    | ok => exact ⟨effects, r, .accepted (by simpa [hi] using haccepts) h⟩
    | error f => exact ⟨[], some f, .refused hi haccepts⟩

/-! ## Faults of actions -/

theorem Action.Fails.isIndex {v : View} {a : Action} {f : Fault} (h : a.Fails v f) :
    f.isIndex = true := by
  cases h with
  | target h | index h => exact Argument.isIndex_of_read _ h
  | value _ h => exact Argument.isIndex_of_read _ h
  | tooWide | outside => rfl

theorem Completes.isIndex {v : View} {as : List Action} {effects : List Effect} {r : Option Fault}
    (h : Completes v as effects r) {f : Fault} (hr : r = some f) : f.isIndex = true := by
  induction h with
  | done => cases hr
  | failed hfails =>
    cases hr
    exact hfails.isIndex
  | effect _ _ ih => exact ih hr

/-- A statement fails by a bad index, or because its routine refuses to start. -/
theorem Statement.Completes.fault {s : Statement} {v : View} {effects : List Effect} {f : Fault}
    (h : s.Completes v effects (some f)) :
    f.isIndex = true ∨ effects = [] ∧ ∃ i, s.instruction = some i ∧
      i.routine.accepts s.operands.length = .error f := by
  cases h with
  | accepted _ h => exact .inl (h.isIndex rfl)
  | refused hi haccepts => exact .inr ⟨rfl, _, hi, haccepts⟩

/-! ## Machines after effects -/

namespace Machine

variable {m : Machine} {operands : List Int} {as : List Action} {effects : List Effect}
  {r : Option Fault}

def applied (m : Machine) (effects : List Effect) : Machine :=
  { m with
    registers := Effect.registersAfter m.registers effects
    pc := Effect.pcAfter m.pc effects }

theorem applied_cons (m : Machine) (e : Effect) (effects : List Effect) :
    m.applied (e :: effects) = (m.applied [e]).applied effects := by
  have hpc := Effect.pcAfter_cons m.pc e []
  simp only [applied, hpc, Effect.pcAfter_cons]
  rfl

theorem view_applied (m : Machine) (operands : List Int) (e : Effect) :
    (m.applied [e]).view operands = (m.view operands).after e := by
  have hpc := Effect.pcAfter_cons m.pc e []
  simp only [applied, view, View.after, hpc]
  rfl

theorem act_of_has {a : Action} {e : Effect} (h : a.Has (m.view operands) e) :
    m.act operands a = .ok (m.applied [e]) := by
  cases h with
  | setPc hvalue =>
    simp only [act, hvalue]
    rfl
  | @setRegister _ _ i value hindex hvalue hwide hin =>
    have hwrite : Registers.write m.registers i value = .ok _ :=
      Registers.write_of_inside hwide value hin
    simp only [act, hindex, hvalue, bind, Except.bind, setRegister, hwrite]
    rfl

theorem act_of_fails {a : Action} {f : Fault} (h : a.Fails (m.view operands) f) :
    m.act operands a = .error f := by
  cases h with
  | target hvalue =>
    simp only [act, hvalue]
    rfl
  | index hindex =>
    simp only [act, hindex]
    rfl
  | value hindex hvalue => simp only [act, hindex, hvalue, bind, Except.bind]
  | @tooWide _ _ i value hindex hvalue hwide =>
    have hwrite := Registers.write_of_tooWide m.registers hwide value
    simp only [act, hindex, hvalue, bind, Except.bind, setRegister, hwrite]
  | @outside _ _ i value hindex hvalue hwide hout =>
    have hwrite : Registers.write m.registers i value = .error .writeOutside :=
      Registers.write_of_outside hwide value hout
    simp only [act, hindex, hvalue, bind, Except.bind, setRegister, hwrite]

theorem perform_of_completes (h : Completes (m.view operands) as effects r) :
    m.perform operands as = (m.applied effects, r.elim (.ok ()) .error) := by
  generalize hv : m.view operands = v at h
  induction h generalizing m with
  | done => rfl
  | failed hfails =>
    subst hv
    rw [perform, act_of_fails hfails]
    rfl
  | @effect _ _ as e effects r hhas _ ih =>
    subst hv
    have hrest := ih (m.view_applied operands e)
    rw [← applied_cons] at hrest
    rw [perform, act_of_has hhas]
    exact hrest

theorem execute_of_completes {s : Statement} (h : s.Completes (m.view s.operands) effects r) :
    m.execute s = (m.applied effects, r.elim (.ok ()) .error) := by
  cases h with
  | accepted haccepts h =>
    cases hi : s.instruction with
    | none =>
      rw [Statement.actions, hi] at h
      cases h
      rw [execute, hi]
      rfl
    | some i =>
      rw [Statement.actions, hi] at h
      simp only [execute, hi, invoke, haccepts i hi]
      exact perform_of_completes h
  | refused hi haccepts =>
    simp only [execute, hi, invoke, haccepts]
    rfl

/-! ## One step -/

/-- A step advances the program counter and then executes the statement that it fetched. -/
theorem step_of_completes {s : Statement} (hfetch : m.fetch? = some (some s))
    (h : s.Completes ((m.setPc (m.pc + 1)).view s.operands) effects r) :
    m.step = r.elim (((m.setPc (m.pc + 1)).applied effects).report m.pc s)
      (.faulty ((m.setPc (m.pc + 1)).applied effects)) := by
  simp only [step, hfetch, execute_of_completes h]
  cases r <;> rfl

theorem fetch?_of_getElem? {p : Nat} {slot : Slot} (hpc : m.pc = p)
    (h : m.statements[p]? = some slot) : m.fetch? = some slot := by
  obtain ⟨hlt, -⟩ := List.getElem?_eq_some_iff.mp h
  have hm : m.halting = false := by
    rw [halting_eq_false_iff, count]
    omega
  rw [fetch?, hm, if_neg Bool.false_ne_true, hpc, Int.toNat_natCast, h]

theorem report_eq {s : Statement} {line : String} (htext : s.text = some line) (m : Machine)
    (pc : Int) :
    m.report pc s =
      if Registers.Fit m.registers then
        ⟨{ m with trace := if m.tracing then m.trace ++ [⟨pc, line, m.registers⟩] else m.trace },
          [.executed ⟨pc, line, m.registers⟩], .ok ()⟩
      else .faulty m .tooManyDigits := by
  simp only [report, htext, keepTrace_eq]

/-- What a step at place `p` does, whether it fails or not. The completed writes of the statement
are done in order, and the program counter is where the last completed jump sends it. An action that
fails, or whose arguments cannot be read, has no effect, and neither have those behind it. The trace
grows only if all actions succeed and the registers can be written. -/
theorem step_effect (m : Machine) (p : Nat) (s : Statement) (hpc : m.pc = p)
    (hs : m.statements[p]? = some (some s)) :
    (∃ effects r, s.Completes ⟨s.operands, m.registers, m.count, p + 1⟩ effects r) ∧
      ∀ effects r, s.Completes ⟨s.operands, m.registers, m.count, p + 1⟩ effects r →
        Frame m m.step.state ∧
        m.step.state.pc = Effect.pcAfter (p + 1) effects ∧
        m.step.state.registers = Effect.registersAfter m.registers effects ∧
        (∀ f, r = some f →
          m.step.result = .error (.fault f) ∧ m.step.state.trace = m.trace ∧
          (f.isIndex = true ∨ effects = [] ∧ ∃ i, s.instruction = some i ∧
            i.routine.accepts s.operands.length = .error f)) ∧
        (r = none → s.text = none →
          m.step.result = .error (.fault .noText) ∧ m.step.state.trace = m.trace) ∧
        ∀ line, r = none → s.text = some line →
          if Registers.Fit m.step.state.registers then
            m.step.result = .ok () ∧ m.step.state.trace =
              if m.tracing then m.trace ++ [⟨p, line, m.step.state.registers⟩] else m.trace
          else
            m.step.result = .error (.fault .tooManyDigits) ∧ m.step.state.trace = m.trace := by
  have hview : (m.setPc (m.pc + 1)).view s.operands =
      ⟨s.operands, m.registers, m.count, p + 1⟩ := by
    rw [hpc]
    rfl
  refine ⟨s.exists_completes _, fun effects r h => ⟨m.frame_step, ?_⟩⟩
  have hstep := step_of_completes (fetch?_of_getElem? hpc hs) (hview ▸ h)
  rw [hpc] at hstep
  rw [hstep]
  cases r with
  | some f =>
    refine ⟨rfl, rfl, ?_, nofun, nofun⟩
    rintro _ ⟨⟩
    exact ⟨rfl, rfl, h.fault⟩
  | none =>
    rw [Option.elim_none]
    cases htext : s.text with
    | none =>
      rw [report, htext]
      exact ⟨rfl, rfl, nofun, fun _ _ => ⟨rfl, rfl⟩, nofun⟩
    | some line =>
      rw [report_eq htext]
      by_cases hfit : Registers.Fit ((m.setPc (p + 1)).applied effects).registers
      · rw [if_pos hfit]
        refine ⟨rfl, rfl, nofun, nofun, ?_⟩
        rintro _ - ⟨⟩
        rw [if_pos hfit]
        exact ⟨rfl, rfl⟩
      · rw [if_neg hfit]
        refine ⟨rfl, rfl, nofun, nofun, ?_⟩
        rintro _ - ⟨⟩
        exact (if_neg hfit).mpr ⟨rfl, rfl⟩

/-- A routine of four actions that jumps to the value of a register, puts the program counter into
the last register and then sets a register that does not exist. The jump behind that is not made. -/
theorem step_effect_outside :
    ∃ (m : Machine) (s : Statement),
      m.pc = (1 : Nat) ∧ m.statements[1]? = some (some s) ∧ m.registers = [5, 7, 1] ∧
      s.actions = [.setPc (.register 0), .setRegister (.literal (-1)) .pc,
        .setRegister (.register 0) .count, .setPc (.literal 0)] ∧
      m.step.result = .error (.fault .writeOutside) ∧ m.step.state.pc = 5 ∧
      m.step.state.registers = [5, 7, 5] ∧ m.step.state.trace = m.trace := by
  let s : Statement := ⟨some ⟨"MIX", [], .custom [.setPc (.register 0),
    .setRegister (.literal (-1)) .pc, .setRegister (.register 0) .count, .setPc (.literal 0)], ""⟩,
    [], some "MIX", none⟩
  let m : Machine := ⟨[5, 7, 1], [none, some s], 1, .mk [] commentMark, true, [⟨0, "", [5, 7, 1]⟩]⟩
  have heffects : s.Completes ⟨[], [5, 7, 1], 2, 2⟩ [.setPc 5, .setRegister (-1) 5]
      (some .writeOutside) := by
    refine .accepted (by rintro _ ⟨⟩; rfl) ?_
    refine .effect (.setPc rfl) (.effect (.setRegister rfl rfl rfl (by decide)) (.failed ?_))
    exact @Action.Fails.outside _ _ _ 5 2 rfl rfl rfl (by decide)
  obtain ⟨-, hpc, hregisters, hfault, -⟩ := (step_effect m 1 s rfl rfl).2 _ _ heffects
  obtain ⟨hresult, htrace, -⟩ := hfault _ rfl
  exact ⟨m, s, rfl, rfl, rfl, rfl, hresult, hpc, hregisters, htrace⟩

end Machine

end RegisterMachine
