import RegisterMachine.Outcome
import RegisterMachine.Proofs.Bounds
import RegisterMachine.Proofs.Execution

/-!
# Runs over built-in statements

* `Machine.pass`: the machine after the built-in statement in front of it.
* `Machine.Awaits last n m ss`: `m` stands in front of the built-in statements `ss`, the last ones
  it has stored. With none left it is at rest: the program counter is the number of statements.
* `Awaits.step`, `Awaits.run`: a step passes the first of the awaited statements, and a run passes
  all of them. Nothing fails while the registers keep to the digit limit.
* `Machine.advance`: the machine at rest after one more statement was stored and run. Storing and
  running statements one by one or all at once makes no difference (`foldl_advance`).
-/

namespace RegisterMachine.Machine

/-! ## Passing a statement -/

def store (m : Machine) (ss : List Statement) : Machine :=
  { m with statements := m.statements ++ ss.map some }

/-- The machine after the built-in statement `s`, which the program counter has reached. -/
def pass (m : Machine) (s : Statement) : Machine :=
  { m with
    registers := s.apply m.registers
    pc := m.pc + 1
    trace :=
      if m.tracing then m.trace ++ [⟨m.pc, s.text.getD "", s.apply m.registers⟩] else m.trace }

/-- The machine after `s` was stored and run. -/
def advance (m : Machine) (s : Statement) : Machine := (m.store [s]).pass s

theorem count_store (m : Machine) (ss : List Statement) :
    (m.store ss).count = m.count + ss.length := by
  simp [store, count]

theorem append_eq_store (m : Machine) (ss : List Statement) :
    m.append (.sequence (ss.map some)) =
      ⟨m.store ss, [.appended ss.length (m.store ss).count m.pc], .ok ()⟩ := by
  simp [append, store]

theorem store_nil (m : Machine) : m.store [] = m := by
  simp [store]

/-- Statements further down do not matter to the one that is passed. -/
theorem pass_store_cons (m : Machine) (s : Statement) (ss : List Statement) :
    (m.store (s :: ss)).pass s = (m.advance s).store ss := by
  simp [store, pass, advance]

/-- Statements may be stored one by one, each run before the next, or all before the first run. -/
theorem foldl_advance (m : Machine) (ss : List Statement) :
    ss.foldl advance m = ss.foldl pass (m.store ss) := by
  induction ss generalizing m with
  | nil => rw [store_nil]; rfl
  | cons s ss ih => rw [List.foldl_cons, List.foldl_cons, pass_store_cons, ih]

theorem registers_foldl_advance (m : Machine) (ss : List Statement) :
    (ss.foldl advance m).registers = ss.foldl (fun rs s => s.apply rs) m.registers := by
  induction ss generalizing m with
  | nil => rfl
  | cons s ss ih => rw [List.foldl_cons, List.foldl_cons, ih]; rfl

theorem language_foldl_advance (m : Machine) (ss : List Statement) :
    (ss.foldl advance m).language = m.language := by
  induction ss generalizing m with
  | nil => rfl
  | cons s ss ih => rw [List.foldl_cons, ih]; rfl

theorem statements_foldl_advance (m : Machine) (ss : List Statement) :
    (ss.foldl advance m).statements = m.statements ++ ss.map some := by
  induction ss generalizing m with
  | nil => simp
  | cons s ss ih =>
    rw [List.foldl_cons, ih]
    simp [advance, store, pass]

/-- A step passes the built-in statement at the program counter, provided that the registers can be
written afterwards. -/
theorem step_eq_pass {last : Nat} (hlast : 1 ≤ last ∧ (last : Int) + 1 < 2 ^ 63) {m : Machine}
    {s : Statement} (hs : s.Builtin last) (hfetch : m.fetch? = some (some s))
    (hwidth : m.registers.length = last + 1) (hfit : Registers.Fit (s.apply m.registers)) :
    ∃ log, m.step = ⟨m.pass s, log, .ok ()⟩ := by
  obtain ⟨line, htext⟩ := hs.exists_text
  have hexec : (m.setPc (m.pc + 1)).execute s =
      ({ m.setPc (m.pc + 1) with registers := s.apply m.registers }, .ok ()) :=
    execute_builtin hs hwidth hlast.2 (by omega)
  refine ⟨[.executed ⟨m.pc, line, s.apply m.registers⟩], ?_⟩
  simp only [step, hfetch, hexec, report, htext, hfit, if_true, keepTrace_eq]
  simp only [setPc, pass, htext, Option.getD_some]
  rfl

/-! ## Awaited statements -/

/-- `m` stands in front of the built-in statements `ss`, the last ones stored, and `n` bounds its
registers. -/
structure Awaits (last n : Nat) (m : Machine) (ss : List Statement) : Prop where
  stored : ∃ before : List Slot, m.statements = before ++ ss.map some ∧ m.pc = before.length
  builtin : ∀ s ∈ ss, s.Builtin last
  width : m.registers.length = last + 1
  bounded : Registers.Bounded n m.registers

theorem awaits_blank (last : Nat) (l : Language) : (blank (last + 1) l).Awaits last 0 [] where
  stored := ⟨[], rfl, rfl⟩
  builtin := by simp
  width := by simp [blank]
  bounded := Registers.bounded_zero _

namespace Awaits

variable {last n : Nat} {m : Machine} {s : Statement} {ss : List Statement}

theorem setTracing (h : m.Awaits last n ss) (enable : Bool) :
    (m.setTracing enable).Awaits last n ss :=
  ⟨h.stored, h.builtin, h.width, h.bounded⟩

theorem mono {k : Nat} (h : m.Awaits last n ss) (hk : n ≤ k) : m.Awaits last k ss :=
  ⟨h.stored, h.builtin, h.width, h.bounded.mono hk⟩

theorem pc_eq_count (h : m.Awaits last n []) : m.pc = m.count := by
  obtain ⟨before, hstored, hpc⟩ := h.stored
  rw [hpc, count, hstored]
  simp

theorem halting (h : m.Awaits last n []) : m.halting = true := by
  simp [Machine.halting, h.pc_eq_count]

theorem not_halting (h : m.Awaits last n (s :: ss)) : m.halting = false := by
  obtain ⟨before, hstored, hpc⟩ := h.stored
  simp only [Machine.halting, count, hstored, hpc, List.length_append, List.length_map,
    List.length_cons, Bool.or_eq_false_iff, decide_eq_false_iff_not]
  omega

theorem fetch (h : m.Awaits last n (s :: ss)) : m.fetch? = some (some s) := by
  obtain ⟨before, hstored, hpc⟩ := h.stored
  simp [fetch?, h.not_halting, hstored, hpc]

theorem store (h : m.Awaits last n []) (hss : ∀ s ∈ ss, s.Builtin last) :
    (m.store ss).Awaits last n ss := by
  obtain ⟨before, hstored, hpc⟩ := h.stored
  refine ⟨⟨before, ?_, hpc⟩, hss, h.width, h.bounded⟩
  simp [Machine.store, hstored]

theorem pass (h : m.Awaits last n (s :: ss)) : (m.pass s).Awaits last (n + s.adds) ss := by
  obtain ⟨before, hstored, hpc⟩ := h.stored
  refine ⟨⟨before ++ [some s], ?_, ?_⟩, fun t ht => h.builtin t (List.mem_cons_of_mem _ ht), ?_, ?_⟩
  · simp [Machine.pass, hstored]
  · simp [Machine.pass, hpc]
  · simp [Machine.pass, h.width]
  · exact h.bounded.apply (h.builtin s List.mem_cons_self)

theorem advance (h : m.Awaits last n []) (hs : s.Builtin last) :
    (m.advance s).Awaits last (n + s.adds) [] := by
  have hone : ∀ t ∈ [s], t.Builtin last := by simpa using hs
  exact (h.store hone).pass

theorem foldl_advance (h : m.Awaits last n []) (hss : ∀ s ∈ ss, s.Builtin last) :
    (ss.foldl Machine.advance m).Awaits last (n + ss.length) [] := by
  induction ss generalizing m n with
  | nil => exact h
  | cons s ss ih =>
    have hs := (h.advance (hss s List.mem_cons_self)).mono (Nat.add_le_add_left s.adds_le_one n)
    have hrest := ih hs fun t ht => hss t (List.mem_cons_of_mem _ ht)
    exact hrest.mono (by simp only [List.length_cons]; omega)

theorem fit_advance (h : m.Awaits last n []) (hs : s.Builtin last) (hn : n + 1 < 10 ^ 4000) :
    Registers.Fit (m.advance s).registers := by
  have hadds := s.adds_le_one
  exact (h.advance hs).bounded.fit (by omega)

/-! ## Steps and runs -/

variable (hlast : 1 ≤ last ∧ (last : Int) + 1 < 2 ^ 63)
include hlast

theorem step (h : m.Awaits last n (s :: ss)) (hn : n + 1 < 10 ^ 4000) :
    ∃ log, m.step = ⟨m.pass s, log, .ok ()⟩ := by
  have hs : s.Builtin last := h.builtin s List.mem_cons_self
  have hfit : Registers.Fit (s.apply m.registers) :=
    (h.bounded.apply hs).fit (Nat.lt_of_le_of_lt (Nat.add_le_add_left s.adds_le_one n) hn)
  exact step_eq_pass hlast hs h.fetch h.width hfit

/-- A run passes all awaited statements and ends at rest. -/
theorem run (h : m.Awaits last n ss) (hn : n + ss.length < 10 ^ 4000) {fuel : Nat}
    (hfuel : ss.length ≤ fuel) :
    ∃ log, m.run fuel = ⟨ss.foldl Machine.pass m, log, .ok ()⟩ := by
  induction ss generalizing m n fuel with
  | nil =>
    refine ⟨[], ?_⟩
    cases fuel <;> simp only [Machine.run, h.halting, if_true] <;> rfl
  | cons s ss ih =>
    obtain ⟨fuel, rfl⟩ : ∃ k, fuel = k + 1 := ⟨fuel - 1, by simp at hfuel; omega⟩
    simp only [List.length_cons] at hn hfuel
    obtain ⟨log, hstep⟩ := h.step hlast (by omega)
    have hadds := s.adds_le_one
    obtain ⟨log', hrun⟩ := ih h.pass (by omega) (show ss.length ≤ fuel by omega)
    refine ⟨log ++ log', ?_⟩
    simp only [Machine.run, h.not_halting, Bool.false_eq_true, if_false, hstep, Outcome.andThen,
      hrun, List.foldl_cons]

/-- Statements appended to a machine at rest are run, each once, by the next run. -/
theorem append_run (h : m.Awaits last n []) (hss : ∀ s ∈ ss, s.Builtin last)
    (hn : n + ss.length < 10 ^ 4000) (fuel : Machine → Nat)
    (hfuel : ss.length ≤ fuel (m.store ss)) :
    ∃ log, ((m.append (.sequence (ss.map some))).andThen fun _ m' => m'.run (fuel m')) =
      ⟨ss.foldl Machine.advance m, log, .ok ()⟩ := by
  obtain ⟨log, hrun⟩ := (h.store hss).run hlast hn hfuel
  refine ⟨.appended ss.length (m.store ss).count m.pc :: log, ?_⟩
  rw [Machine.foldl_advance]
  simp only [append_eq_store, Outcome.andThen, hrun]
  rfl

theorem append_run_single (h : m.Awaits last n []) (hs : s.Builtin last) (hn : n + 1 < 10 ^ 4000)
    (fuel : Machine → Nat) (hfuel : 1 ≤ fuel (m.store [s])) :
    ∃ log, ((m.append (.sequence [some s])).andThen fun _ m' => m'.run (fuel m')) =
      ⟨m.advance s, log, .ok ()⟩ := by
  have hone : ∀ t ∈ [s], t.Builtin last := by simpa using hs
  exact h.append_run hlast hone hn fuel hfuel

end Awaits

end RegisterMachine.Machine
