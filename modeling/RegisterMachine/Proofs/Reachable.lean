import RegisterMachine.Proofs.Execution
import RegisterMachine.Proofs.Operation
import RegisterMachine.Proofs.Run

/-!
# Reachable machines

Whatever is asked of a new machine with the built-in instructions, as long as only statements of
its own language are stored and registers are changed by execution alone, its registers stay within
bounds that grow with the number of executed `ADD` statements, its statements are well formed, its
program only grows and no register is missed (`reachable_sound`). The program counter may be set
anywhere, so that statements are executed any number of times and in any order.

* `Operation.Admissible`: what may be asked.
* `Machine.after`, `Machine.history`: the machine after a list of operations, and the statements
  executed on the way.
* `Machine.Sound last n m`: the invariant, for the registers 0 to `last` and `n` executed `ADD`
  statements. `Sound.step`, `Sound.run` and `Sound.apply` say that it is kept.
-/

namespace RegisterMachine

/-! ## Programs only grow -/

namespace Machine

theorem statements_append (m : Machine) (offer : Offer) :
    m.statements <+: (m.append offer).state.statements := by
  cases offer with
  | sequence slots => exact List.prefix_append _ _
  | statement | text | number | truth | nothing => exact List.prefix_rfl

theorem statements_load (m : Machine) (source : String) :
    m.statements <+: (m.load source).state.statements := by
  unfold load
  split
  · exact List.prefix_rfl
  · exact m.statements_append _

end Machine

namespace Operation

/-- An operation adds statements at the end of the stored ones, or none. -/
theorem statements_apply (m : Machine) (op : Operation) :
    m.statements <+: (op.apply m).state.statements := by
  cases op with
  | lookup | readOperands | assembleLine | assemble | setPc | setTracing | showTrace | clearTrace =>
    exact List.prefix_rfl
  | load source => exact m.statements_load source
  | append offer => exact m.statements_append offer
  | execute i tokens =>
    show _ <+: (m.executeDirectly i tokens).state.statements
    unfold Machine.executeDirectly
    split
    · exact List.prefix_rfl
    · next values _ =>
      rw [Outcome.state_ofFaulty, (m.frame_invoke i values).statements]
  | setRegister index value =>
    unfold apply
    dsimp only
    split
    · next m' h => rw [Outcome.done, (Machine.frame_of_setRegister h).statements]
    · exact List.prefix_rfl
  | step =>
    show _ <+: m.step.state.statements
    rw [m.frame_step.statements]
  | run fuel =>
    show _ <+: (m.run fuel).state.statements
    rw [(m.frame_run fuel).statements]
  | respond fuel text =>
    show _ <+: (Repl.respond fuel m text).state.statements
    rw [Repl.state_respond]
    cases Repl.taken m text with
    | none => exact List.prefix_rfl
    | some s =>
      rw [Option.elim_some, (Machine.frame_run fuel _).statements]
      exact m.statements_append _

/-! ## Sequences of operations -/

/-- Stored statements come from the language `l`, and registers are changed by execution alone. -/
def Admissible (l : Language) : Operation → Prop
  | append (.sequence slots) => ∀ slot ∈ slots, ∃ text, l.assembleLine text = .ok slot
  | execute .. | setRegister .. => False
  | _ => True

def executed (m : Machine) : Operation → List Statement
  | step => m.next?.toList
  | run fuel => m.executed fuel
  | respond fuel text =>
    (Repl.taken m text).elim [] fun s => (m.append (.sequence [some s])).state.executed fuel
  | _ => []

/-- The operation runs the machine and is allowed fewer steps than there are statements then. -/
def Cramped (m : Machine) : Operation → Prop
  | run fuel => fuel < m.count
  | respond fuel _ => fuel < m.count + 1
  | _ => False

end Operation

namespace Machine

/-- The machine after operations, whether they fail or not. -/
def after (m : Machine) (ops : List Operation) : Machine :=
  ops.foldl (fun m op => (op.apply m).state) m

/-- The statements executed by operations, in order and as often as they are. -/
def history (m : Machine) : List Operation → List Statement
  | [] => []
  | op :: ops => op.executed m ++ (op.apply m).state.history ops

end Machine

def Statement.addCount (ss : List Statement) : Nat := (ss.map adds).sum

theorem Statement.addCount_append (ss ts : List Statement) :
    addCount (ss ++ ts) = addCount ss + addCount ts := by
  simp [addCount]

/-! ## The invariant -/

namespace Machine

/-- A machine with the registers 0 to `last` and built-in statements only, whose registers are
bounded by `n` executed `ADD` statements. -/
structure Sound (last n : Nat) (m : Machine) : Prop where
  language : m.language = .builtin last
  stored : ∀ s, some s ∈ m.statements → s.Builtin last
  width : m.registers.length = last + 1
  bounded : Registers.Bounded n m.registers

theorem sound_blank (last : Nat) : (blank (last + 1) (.builtin last)).Sound last 0 where
  language := rfl
  stored := by simp [blank]
  width := by simp [blank]
  bounded := Registers.bounded_zero _

namespace Sound

variable {last n : Nat} {m : Machine}

theorem of_frame {m' : Machine} {k : Nat} (h : m.Sound last n) (hframe : Frame m m')
    (hbounded : Registers.Bounded k m'.registers) : m'.Sound last k where
  language := hframe.language.trans h.language
  stored := by rw [hframe.statements]; exact h.stored
  width := hframe.width.trans h.width
  bounded := hbounded

theorem append (h : m.Sound last n) {slots : List Slot}
    (hslots : ∀ slot ∈ slots, ∃ text, m.language.assembleLine text = .ok slot) :
    (m.append (.sequence slots)).state.Sound last n where
  language := h.language
  stored s hs := by
    rcases List.mem_append.mp hs with hs | hs
    · exact h.stored s hs
    · obtain ⟨text, htext⟩ := hslots (some s) hs
      rw [h.language] at htext
      exact ((Language.assembleLine_eq_some_iff _ _ _).mp htext).builtin.1
  width := h.width
  bounded := h.bounded

/-! ## Steps and runs -/

variable (hlast : 1 ≤ last ∧ (last : Int) + 1 < 2 ^ 63)
include hlast

/-- A step of a sound machine: nothing, an empty slot, or a statement, whose effect stays even if
the registers are too long to be reported. -/
theorem step_cases (h : m.Sound last n) :
    (m.halting = true ∧ m.step = .done m ()) ∨
      (m.halting = false ∧ m.next? = none ∧
        m.step = .faulty (m.setPc (m.pc + 1)) .noStatement) ∨
      ∃ s trace log r, m.halting = false ∧ m.next? = some s ∧ s.Builtin last ∧
        m.step = ⟨{ m with registers := s.apply m.registers, pc := m.pc + 1, trace := trace },
          log, r⟩ ∧ (r = .ok () ∨ r = .error (.fault .tooManyDigits)) := by
  cases hm : m.halting with
  | true => exact .inl ⟨rfl, step_of_halting hm⟩
  | false =>
    obtain ⟨slot, hmem, hfetch⟩ := fetch?_of_not_halting hm
    refine .inr ?_
    cases slot with
    | none => exact .inl ⟨rfl, by simp [next?, hfetch], by simp [Machine.step, hfetch]⟩
    | some s =>
      have hs := h.stored s hmem
      obtain ⟨line, htext⟩ := hs.exists_text
      have hexec : (m.setPc (m.pc + 1)).execute s =
          ({ m.setPc (m.pc + 1) with registers := s.apply m.registers }, .ok ()) :=
        execute_builtin hs h.width hlast.2 (by omega)
      have hstep : m.step =
          Machine.report { m.setPc (m.pc + 1) with registers := s.apply m.registers } m.pc s := by
        simp only [Machine.step, hfetch, hexec]
      rw [hstep]
      unfold report
      rw [htext]
      dsimp only
      split
      · exact .inr ⟨s, _, _, _, rfl, by simp [next?, hfetch], hs,
          by rw [keepTrace_eq]; rfl, .inl rfl⟩
      · exact .inr ⟨s, m.trace, [], _, rfl, by simp [next?, hfetch], hs, rfl, .inr rfl⟩

theorem step (h : m.Sound last n) :
    m.step.state.Sound last (n + Statement.addCount m.next?.toList) := by
  rcases h.step_cases hlast with ⟨hm, hstep⟩ | ⟨-, hnext, hstep⟩ |
    ⟨s, trace, log, r, -, hnext, hs, hstep, -⟩
  · rw [hstep, next?_of_halting hm]
    exact h
  · rw [hstep, hnext]
    exact h.of_frame (frame_setPc _ _) h.bounded
  · refine h.of_frame m.frame_step ?_
    rw [hstep, hnext]
    exact h.bounded.apply hs

theorem pc_step (h : m.Sound last n) (hm : m.halting = false) : m.step.state.pc = m.pc + 1 := by
  rcases h.step_cases hlast with ⟨hm', -⟩ | ⟨-, -, hstep⟩ | ⟨s, trace, log, r, -, -, -, hstep, -⟩
  · rw [hm] at hm'
    cases hm'
  · rw [hstep]
    rfl
  · rw [hstep]

theorem step_eq_error (h : m.Sound last n) {e : Failure} (he : m.step.result = .error e) :
    e = .fault .tooManyDigits ∨ e = .fault .noStatement := by
  rcases h.step_cases hlast with ⟨-, hstep⟩ | ⟨-, -, hstep⟩ |
    ⟨s, trace, log, r, -, -, -, hstep, rfl | rfl⟩ <;> rw [hstep] at he <;> cases he
  · exact .inr rfl
  · exact .inl rfl

theorem run (h : m.Sound last n) (fuel : Nat) :
    (m.run fuel).state.Sound last (n + Statement.addCount (m.executed fuel)) := by
  induction fuel generalizing m n with
  | zero =>
    have hstate : (m.run 0).state = m := by
      unfold Machine.run
      split <;> rfl
    rw [hstate]
    exact h
  | succ fuel ih =>
    cases hm : m.halting with
    | true =>
      rw [run_of_halting hm, executed_of_halting hm]
      exact h
    | false =>
      have hstep := h.step hlast
      rw [run_succ hm, executed_succ hm, Statement.addCount_append, ← Nat.add_assoc]
      unfold Outcome.andThen
      cases m.step.result with
      | error e => exact hstep
      | ok => exact ih hstep

/-- A run that does not come to its end was not allowed one step for each statement ahead. -/
theorem run_eq_error (h : m.Sound last n) {fuel : Nat} {e : Failure}
    (he : (m.run fuel).result = .error e) :
    e = .fault .tooManyDigits ∨ e = .fault .noStatement ∨
      e = .fault .stepLimit ∧ 0 ≤ m.pc ∧ m.pc + fuel < m.count := by
  induction fuel generalizing m n with
  | zero =>
    unfold Machine.run at he
    split at he
    · cases he
    · next hm =>
      cases he
      have hpc := halting_eq_false_iff.mp (by simpa using hm)
      exact .inr (.inr ⟨rfl, by omega⟩)
  | succ fuel ih =>
    cases hm : m.halting with
    | true =>
      rw [run_of_halting hm] at he
      cases he
    | false =>
      rw [run_succ hm] at he
      rcases Outcome.result_andThen_eq_error he with hstep | ⟨-, -, hrun⟩
      · rcases h.step_eq_error hlast hstep with he | he
        · exact .inl he
        · exact .inr (.inl he)
      · rcases ih (h.step hlast) hrun with he | he | ⟨he, -, hlt⟩
        · exact .inl he
        · exact .inr (.inl he)
        · have hpc := halting_eq_false_iff.mp hm
          rw [h.pc_step hlast hm, m.frame_step.count] at hlt
          exact .inr (.inr ⟨he, by omega⟩)

/-! ## Operations -/

omit hlast in
theorem load (h : m.Sound last n) (source : String) : (m.load source).state.Sound last n := by
  unfold Machine.load
  split
  · exact h
  · next ss log hassemble =>
    have hss : ss = m.language.statements (Text.lines source) :=
      Language.eq_statements_of_assembleLines (congrArg Prod.fst hassemble)
    refine h.append fun slot hslot => ?_
    obtain ⟨s, hs, rfl⟩ := List.mem_map.mp hslot
    rw [hss] at hs
    obtain ⟨line, -, hline⟩ := Language.assembles_of_mem_statements hs
    exact ⟨some line, (Language.assembleLine_eq_some_iff _ _ _).mpr hline⟩

omit hlast in
theorem append_taken (h : m.Sound last n) {text : Option String} {s : Statement}
    (htaken : Repl.taken m text = some s) : (m.append (.sequence [some s])).state.Sound last n := by
  have hline : m.language.assembleLine text = .ok (some s) := by
    unfold Repl.taken at htaken
    split at htaken
    · cases htaken
    · rcases hslot : m.language.assembleLine text with d | _ | t <;> rw [hslot] at htaken <;>
        cases htaken
      rfl
  exact h.append (by simpa using ⟨text, hline⟩)

/-- An admissible operation keeps the invariant and adds what it executed to the count. -/
theorem apply (h : m.Sound last n) {op : Operation} (hop : op.Admissible m.language) :
    (op.apply m).state.Sound last (n + Statement.addCount (op.executed m)) := by
  cases op with
  | lookup | readOperands | assembleLine | assemble | showTrace => exact h
  | setPc value => exact h.of_frame (frame_setPc m value) h.bounded
  | setTracing enable => exact ⟨h.language, h.stored, h.width, h.bounded⟩
  | clearTrace => exact ⟨h.language, h.stored, h.width, h.bounded⟩
  | load source => exact h.load source
  | append offer =>
    cases offer with
    | sequence slots => exact h.append hop
    | statement | text | number | truth | nothing => exact h
  | execute | setRegister => exact hop.elim
  | step => exact h.step hlast
  | run fuel => exact h.run hlast fuel
  | respond fuel text =>
    show (Repl.respond fuel m text).state.Sound _ _
    rw [Repl.state_respond, Operation.executed]
    cases htaken : Repl.taken m text with
    | none => exact h
    | some s => exact (h.append_taken htaken).run hlast fuel

/-- Apart from rejections, operations fail only on numbers that are too long to write, on empty
slots, and if a run is not allowed a step for each statement. -/
theorem apply_eq_error (h : m.Sound last n) {op : Operation} (hop : op.Admissible m.language)
    {e : Failure} (he : (op.apply m).result = .error e) :
    (∃ d, e = .rejected d) ∨ e = .fault .tooManyDigits ∨ e = .fault .noStatement ∨
      e = .fault .stepLimit ∧ op.Cramped m := by
  cases op with
  | lookup | readOperands | assembleLine => exact .inl (Operation.asked_eq_error he)
  | assemble source =>
    rcases hassemble : m.language.assemble source with ⟨result, log⟩
    simp only [Operation.apply, hassemble] at he
    cases result with
    | ok ss => cases he
    | error e' =>
      cases he
      exact (Language.assembleLines_eq_error (congrArg Prod.fst hassemble)).imp_right .inl
  | load source =>
    have he := Outcome.result_map_eq_error.mp he
    unfold Machine.load at he
    split at he
    · next e' log hassemble =>
      cases he
      exact (Language.assembleLines_eq_error (congrArg Prod.fst hassemble)).imp_right .inl
    · cases he
  | append offer => cases offer <;> cases he
  | setPc | setTracing | showTrace | clearTrace => cases he
  | execute | setRegister => exact hop.elim
  | step =>
    have he := h.step_eq_error hlast (Outcome.result_map_eq_error.mp he)
    exact .inr (he.imp_right .inl)
  | run fuel =>
    rcases h.run_eq_error hlast (Outcome.result_map_eq_error.mp he) with he | he | ⟨he, hlt⟩
    · exact .inr (.inl he)
    · exact .inr (.inr (.inl he))
    · exact .inr (.inr (.inr ⟨he, show fuel < m.count by omega⟩))
  | respond fuel text =>
    rcases Repl.respond_eq_error (Outcome.result_map_eq_error.mp he) with he | ⟨s, htaken, he⟩
    · exact .inr (.inl he)
    · have hcount : (m.append (.sequence [some s])).state.count = m.count + 1 := by
        simp [Machine.append, Machine.count]
      rcases (h.append_taken htaken).run_eq_error hlast he with he | he | ⟨he, hlt⟩
      · exact .inr (.inl he)
      · exact .inr (.inr (.inl he))
      · exact .inr (.inr (.inr ⟨he, show fuel < m.count + 1 by omega⟩))

theorem after (h : m.Sound last n) {ops : List Operation}
    (hops : ∀ op ∈ ops, op.Admissible m.language) :
    (m.after ops).Sound last (n + Statement.addCount (m.history ops)) := by
  induction ops generalizing m n with
  | nil => exact h
  | cons op ops ih =>
    have hop := h.apply hlast (hops op List.mem_cons_self)
    rw [Machine.history, Statement.addCount_append, ← Nat.add_assoc]
    refine ih hop fun op' hop' => ?_
    rw [hop.language, ← h.language]
    exact hops op' (List.mem_cons_of_mem _ hop')

end Sound

end Machine

/-! ## Machines made for a number of registers -/

/-- The operands of a built-in statement are as many as its instruction has, and in their ranges. -/
theorem Statement.Builtin.operands {last : Nat} {s : Statement} (h : s.Builtin last)
    {i : Instruction} (hi : s.instruction = some i) :
    List.Forall₂ (fun o v => o.type.min ≤ v ∧ v ≤ o.type.max) i.operands s.operands := by
  cases h with
  | comment => cases hi
  | set line c hindex hvalue =>
    cases hi
    exact .cons hindex (.cons hvalue .nil)
  | add =>
    cases hi
    exact .nil

open Statement (addCount) in
/-- Every state that a machine with two or more registers can be brought to by admissible
operations. Its registers are as many as at the start and not negative, the first of them is bounded
by the executed `ADD` statements and each of the others holds a word. The operands of its statements
are in their ranges. The next operation only adds statements, and it fails neither for a register
that is not there nor, with a step for each statement, because a run does not end. -/
theorem reachable_sound (count : Int) (htwo : 2 ≤ count) (hcount : count < 2 ^ 63) :
    ∃ fresh, Machine.make count = .ok fresh ∧
      ∀ ops : List Operation, (∀ op ∈ ops, op.Admissible fresh.language) →
        (fresh.after ops).language = fresh.language ∧
        (fresh.after ops).registers.length = count.toNat ∧
        (∀ v ∈ (fresh.after ops).registers, 0 ≤ v) ∧
        (∀ (k : Nat) (v : Int), (fresh.after ops).registers[k + 1]? = some v → v ≤ 65535) ∧
        (∀ v : Int, (fresh.after ops).registers[0]? = some v →
          v ≤ 65535 * (1 + addCount (fresh.history ops))) ∧
        (∀ s i, some s ∈ (fresh.after ops).statements → s.instruction = some i →
          List.Forall₂ (fun o v => o.type.min ≤ v ∧ v ≤ o.type.max) i.operands s.operands) ∧
        ∀ op : Operation, op.Admissible fresh.language →
          (fresh.after ops).statements <+: (op.apply (fresh.after ops)).state.statements ∧
          ∀ f, (op.apply (fresh.after ops)).result = .error (.fault f) →
            f = .tooManyDigits ∨ f = .noStatement ∨
              f = .stepLimit ∧ op.Cramped (fresh.after ops) := by
  obtain ⟨last, rfl⟩ : ∃ last : Nat, count = last + 1 := ⟨(count - 1).toNat, by omega⟩
  have hlast : 1 ≤ last ∧ (last : Int) + 1 < 2 ^ 63 := by omega
  refine ⟨_, Machine.make_succ hcount, fun ops hops => ?_⟩
  have hsound := (Machine.sound_blank last).after hlast hops
  rw [Nat.zero_add] at hsound
  refine ⟨hsound.language, by rw [hsound.width]; omega, hsound.bounded.nonneg, ?_, ?_, ?_, ?_⟩
  · intro k v hv
    refine hsound.bounded.others v (List.mem_of_getElem? (i := k) ?_)
    rwa [List.getElem?_tail]
  · intro v hv
    have hfirst := hsound.bounded.first v (by rwa [List.head?_eq_getElem?])
    simp only [OperandType.wordMax] at hfirst
    omega
  · intro s i hs hi
    exact (hsound.stored s hs).operands hi
  · intro op hop
    refine ⟨op.statements_apply _, fun f hf => ?_⟩
    rw [show (Machine.blank (last + 1) (.builtin last)).language = .builtin last from rfl,
      ← hsound.language] at hop
    rcases hsound.apply_eq_error hlast hop hf with ⟨d, hd⟩ | he | he | ⟨he, hcramped⟩
    · cases hd
    · cases he
      exact .inl rfl
    · cases he
      exact .inr (.inl rfl)
    · cases he
      exact .inr (.inr ⟨rfl, hcramped⟩)

open Statement (addCount) in
/-- The program counter goes back, so that the only `ADD` is executed twice. -/
theorem reachable_sound_twice :
    ∃ fresh ops, Machine.make 3 = .ok fresh ∧
      ops = [.load "set 1 65535\nadd # twice", .run 5, .setPc 1, .step, .append .nothing,
        .respond 3 (some "set 2 7"), .setPc (-7)] ∧
      (∀ op ∈ ops, op.Admissible fresh.language) ∧
      (fresh.after ops).registers = [131070, 65535, 7] ∧ addCount (fresh.history ops) = 2 ∧
      (131070 : Int) ≤ 65535 * (1 + addCount (fresh.history ops)) ∧
      (fresh.after ops).statements <+:
        ((Operation.load "ADD").apply (fresh.after ops)).state.statements := by
  obtain ⟨fresh, hfresh, h⟩ := reachable_sound 3 (by decide) (by decide)
  have hmake : Machine.make 3 = .ok (.blank 3 (.builtin 2)) := rfl
  obtain rfl : Machine.blank 3 (.builtin 2) = fresh := Except.ok.inj (hmake.symm.trans hfresh)
  have hops : ∀ op ∈ [Operation.load "set 1 65535\nadd # twice", .run 5, .setPc 1, .step,
      .append .nothing, .respond 3 (some "set 2 7"), .setPc (-7)],
      op.Admissible (Machine.blank 3 (.builtin 2)).language := by
    simp [Operation.Admissible]
  obtain ⟨-, -, -, -, hfirst, -, hnext⟩ := h _ hops
  exact ⟨_, _, hmake, rfl, hops, by decide +kernel, by decide +kernel,
    hfirst _ (by decide +kernel), (hnext (.load "ADD") trivial).1⟩

end RegisterMachine
