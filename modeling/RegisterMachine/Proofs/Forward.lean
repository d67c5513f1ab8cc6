import RegisterMachine.Proofs.Effects

/-!
# Runs that go forward

A run has no limit of its own; what ends it is a program counter that leaves the program. If every
step of a run succeeds and takes the counter further down or before the start, then the run ends
after at most as many steps as there are statements ahead (`run_of_forward`).

* `Machine.Along P m`: `P` holds in front of every step that a run of `m` takes.
* `Machine.Forward m`: all these steps succeed and go forward.
* `Machine.stepsAhead`: the number of statements from the program counter on.
* `Machine.EndsIn m m'`: a run that is allowed the steps ahead of `m` ends in `m'`.
* `Statement.Straight`: a statement without a jump. A run over such statements executes all of them
  in order (`executed_of_straight`).
-/

namespace RegisterMachine

/-! ## Statements without a jump -/

def Action.isJump : Action → Bool
  | .setPc _ => true
  | .setRegister .. => false

/-- No action of the statement sets the program counter. -/
def Statement.Straight (s : Statement) : Prop := ∀ a ∈ s.actions, a.isJump = false

instance (s : Statement) : Decidable s.Straight :=
  inferInstanceAs (Decidable (∀ a ∈ s.actions, a.isJump = false))

theorem Completes.pcAfter_of_straight {v : View} {as : List Action} {effects : List Effect}
    {r : Option Fault} (h : Completes v as effects r) (hjump : ∀ a ∈ as, a.isJump = false)
    (pc : Int) : Effect.pcAfter pc effects = pc := by
  induction h generalizing pc with
  | done | failed => rfl
  | effect hhas _ ih =>
    rw [Effect.pcAfter_cons, ih fun a ha => hjump a (List.mem_cons_of_mem _ ha)]
    have hhead := hjump _ List.mem_cons_self
    cases hhas with
    | setPc => cases hhead
    | setRegister => rfl

namespace Machine

variable {m : Machine}

/-- A step that succeeds executes a statement, all of whose effects are completed. -/
theorem step_eq_ok (hm : m.halting = false) (h : m.step.result = .ok ()) :
    ∃ s effects, m.fetch? = some (some s) ∧
      s.Completes ((m.setPc (m.pc + 1)).view s.operands) effects none ∧
      m.step = ((m.setPc (m.pc + 1)).applied effects).report m.pc s := by
  obtain ⟨slot, -, hfetch⟩ := fetch?_of_not_halting hm
  cases slot with
  | none => simp [step, hfetch, Outcome.faulty] at h
  | some s =>
    obtain ⟨effects, r, heffects⟩ := s.exists_completes ((m.setPc (m.pc + 1)).view s.operands)
    have hstep := step_of_completes hfetch heffects
    cases r with
    | some f => rw [hstep] at h; cases h
    | none => exact ⟨s, effects, hfetch, heffects, hstep⟩

theorem next?_of_step_ok (hm : m.halting = false) (h : m.step.result = .ok ()) :
    ∃ s, m.next? = some s ∧ m.statements[m.pc.toNat]? = some (some s) := by
  obtain ⟨s, -, hfetch, -⟩ := step_eq_ok hm h
  refine ⟨s, by rw [next?, hfetch]; rfl, ?_⟩
  rwa [fetch?, hm, if_neg Bool.false_ne_true] at hfetch

theorem pc_step_of_straight (hm : m.halting = false) (h : m.step.result = .ok ())
    (hstraight : ∀ s, m.next? = some s → s.Straight) : m.step.state.pc = m.pc + 1 := by
  obtain ⟨s, effects, hfetch, heffects, hstep⟩ := step_eq_ok hm h
  have hs : s.Straight := hstraight s (by rw [next?, hfetch]; rfl)
  obtain ⟨trace, htrace⟩ := ((m.setPc (m.pc + 1)).applied effects).state_report m.pc s
  rw [hstep, htrace]
  cases heffects with
  | accepted _ heffects => exact heffects.pcAfter_of_straight hs (m.pc + 1)

/-! ## Along a run -/

theorem visited_of_halting (hm : m.halting = true) (fuel : Nat) : m.visited fuel = [] := by
  cases fuel with
  | zero => rfl
  | succ fuel => rw [visited, if_pos hm]

theorem visited_succ (hm : m.halting = false) (h : m.step.result = .ok ()) (fuel : Nat) :
    m.visited (fuel + 1) = m :: m.step.state.visited fuel := by
  rw [visited, hm, if_neg Bool.false_ne_true, h]

/-- `P` holds in front of every step of a run, however many it is allowed. -/
def Along (P : Machine → Prop) (m : Machine) : Prop := ∀ fuel, ∀ x ∈ m.visited fuel, P x

theorem along_of_halting (P : Machine → Prop) (hm : m.halting = true) : m.Along P := by
  intro fuel x hx
  rw [visited_of_halting hm] at hx
  cases hx

theorem along_of_step {P : Machine → Prop} (hm : m.halting = false) (h : m.step.result = .ok ())
    (hhead : P m) (hrest : m.step.state.Along P) : m.Along P := by
  intro fuel x hx
  cases fuel with
  | zero => cases hx
  | succ fuel =>
    rw [visited_succ hm h] at hx
    rcases List.mem_cons.mp hx with rfl | hx
    · exact hhead
    · exact hrest fuel x hx

namespace Along

variable {P : Machine → Prop}

theorem head (h : m.Along P) (hm : m.halting = false) : P m := by
  refine h 1 m ?_
  rw [visited, hm, if_neg Bool.false_ne_true]
  exact List.mem_cons_self

theorem step (h : m.Along P) (hm : m.halting = false) (hstep : m.step.result = .ok ()) :
    m.step.state.Along P := by
  intro fuel x hx
  refine h (fuel + 1) x ?_
  rw [visited_succ hm hstep]
  exact List.mem_cons_of_mem _ hx

end Along

/-! ## Forward runs -/

/-- The step succeeds, and takes the program counter further down or before the start. -/
def Advances (m : Machine) : Prop :=
  m.step.result = .ok () ∧ (m.pc < m.step.state.pc ∨ m.step.state.pc < 0)

/-- All steps of a run succeed and go forward. -/
def Forward (m : Machine) : Prop := m.Along Advances

/-- The number of statements from the program counter on; none if it is before the start. -/
def stepsAhead (m : Machine) : Nat := if m.pc < 0 then 0 else ((m.count : Int) - m.pc).toNat

theorem stepsAhead_eq_zero_iff : m.stepsAhead = 0 ↔ m.halting = true := by
  simp only [stepsAhead, halting, Bool.or_eq_true, decide_eq_true_eq]
  split <;> omega

theorem Advances.stepsAhead_lt (h : m.Advances) (hm : m.halting = false) :
    m.step.state.stepsAhead < m.stepsAhead := by
  have hpc := halting_eq_false_iff.mp hm
  have hmove := h.2
  simp only [stepsAhead, m.frame_step.count]
  split <;> split <;> omega

/-- With a step for each statement ahead, a run of `m` ends in `m'`; more steps change nothing. -/
def EndsIn (m m' : Machine) : Prop :=
  ∃ log, ∀ fuel, m.stepsAhead ≤ fuel → m.run fuel = ⟨m', log, .ok ()⟩

theorem endsIn_of_halting (hm : m.halting = true) : m.EndsIn m :=
  ⟨[], fun fuel _ => run_of_halting hm fuel⟩

theorem Advances.endsIn {m' : Machine} (h : m.Advances) (hm : m.halting = false)
    (hrest : m.step.state.EndsIn m') : m.EndsIn m' := by
  obtain ⟨log, hrun⟩ := hrest
  refine ⟨m.step.log ++ log, fun fuel hfuel => ?_⟩
  have hlt := h.stepsAhead_lt hm
  obtain ⟨fuel, rfl⟩ : ∃ k, fuel = k + 1 := ⟨fuel - 1, by omega⟩
  rw [run_succ hm, Outcome.andThen, h.1]
  simp only [hrun fuel (by omega)]

/-- The places at which a run takes its steps. -/
def indices (fuel : Nat) (m : Machine) : List Int := (m.visited fuel).map pc

/-- A counter before the start halts the machine, so that later steps are further down. -/
theorem Advances.lt_pc_of_le (h : m.Advances) {fuel : Nat} {x : Machine}
    (hx : x ∈ m.step.state.visited fuel) (hle : m.step.state.pc ≤ x.pc) : m.pc < x.pc := by
  rcases h.2 with hlt | hneg
  · exact Int.lt_of_lt_of_le hlt hle
  · rw [visited_of_halting (by simp [halting, hneg])] at hx
    cases hx

namespace Forward

theorem step (h : m.Forward) (hm : m.halting = false) : m.step.state.Forward :=
  Along.step h hm (h.head hm).1

/-- A forward run ends, by induction on the statements ahead. -/
theorem exists_endsIn (h : m.Forward) : ∃ m', m.EndsIn m' ∧ m'.halting = true := by
  generalize hn : m.stepsAhead = n
  induction n using Nat.strongRecOn generalizing m with
  | _ n ih =>
    cases hm : m.halting with
    | true => exact ⟨m, endsIn_of_halting hm, hm⟩
    | false =>
      have hhead : m.Advances := h.head hm
      have hlt := hhead.stepsAhead_lt hm
      obtain ⟨m', hends, hhalting⟩ := ih _ (by omega) (h.step hm) rfl
      exact ⟨m', hhead.endsIn hm hends, hhalting⟩

/-- A forward run takes no step, or a step and then those of the machine after it. -/
theorem visited_cases (h : m.Forward) (fuel : Nat) :
    m.visited fuel = [] ∨
      ∃ rest, fuel = rest + 1 ∧ m.halting = false ∧ m.Advances ∧ m.step.state.Forward ∧
        m.visited fuel = m :: m.step.state.visited rest := by
  cases fuel with
  | zero => exact .inl rfl
  | succ rest =>
    cases hm : m.halting with
    | true => exact .inl (visited_of_halting hm _)
    | false =>
      have hhead : m.Advances := h.head hm
      exact .inr ⟨rest, rfl, rfl, hhead, h.step hm, visited_succ hm hhead.1 rest⟩

theorem length_visited_le (h : m.Forward) (fuel : Nat) :
    (m.visited fuel).length ≤ m.stepsAhead := by
  induction fuel generalizing m with
  | zero => exact Nat.zero_le _
  | succ fuel ih =>
    rcases h.visited_cases (fuel + 1) with hnil | ⟨_, ⟨⟩, hm, hhead, hrest, hcons⟩
    · simp [hnil]
    · have hlt := hhead.stepsAhead_lt hm
      have hlen := ih hrest
      rw [hcons, List.length_cons]
      omega

/-- The steps of a forward run are taken at places from the program counter to the end. -/
theorem bounds_of_mem_visited (h : m.Forward) {fuel : Nat} {x : Machine}
    (hx : x ∈ m.visited fuel) : m.pc ≤ x.pc ∧ 0 ≤ x.pc ∧ x.pc < m.count := by
  induction fuel generalizing m with
  | zero => cases hx
  | succ fuel ih =>
    rcases h.visited_cases (fuel + 1) with hnil | ⟨_, ⟨⟩, hm, hhead, hrest, hcons⟩
    · rw [hnil] at hx
      cases hx
    · rw [hcons] at hx
      rcases List.mem_cons.mp hx with rfl | hx
      · exact ⟨Int.le_refl _, halting_eq_false_iff.mp hm⟩
      · obtain ⟨hle, hinside⟩ := ih hrest hx
        rw [m.frame_step.count] at hinside
        exact ⟨Int.le_of_lt (hhead.lt_pc_of_le hx hle), hinside⟩

/-- Every step of a forward run is taken at a later place than the one before it. -/
theorem pairwise_indices (h : m.Forward) (fuel : Nat) : (m.indices fuel).Pairwise (· < ·) := by
  induction fuel generalizing m with
  | zero => exact .nil
  | succ fuel ih =>
    unfold indices
    rcases h.visited_cases (fuel + 1) with hnil | ⟨_, ⟨⟩, -, hhead, hrest, hcons⟩
    · simp [hnil]
    · rw [hcons, List.map_cons]
      refine .cons (fun p hp => ?_) (ih hrest)
      obtain ⟨x, hx, rfl⟩ := List.mem_map.mp hp
      exact hhead.lt_pc_of_le hx (hrest.bounds_of_mem_visited hx).1

theorem executed_eq (h : m.Forward) (fuel : Nat) :
    (m.executed fuel).map (fun s => some (some s)) =
      (m.indices fuel).map fun p => m.statements[p.toNat]? := by
  induction fuel generalizing m with
  | zero => rfl
  | succ fuel ih =>
    unfold executed indices
    rcases h.visited_cases (fuel + 1) with hnil | ⟨_, ⟨⟩, hm, hhead, hrest, hcons⟩
    · simp [hnil]
    · obtain ⟨s, hnext, hs⟩ := next?_of_step_ok hm hhead.1
      have htail := ih hrest
      rw [m.frame_step.statements] at htail
      rw [hcons, List.filterMap_cons_some hnext, List.map_cons, List.map_cons, List.map_cons, hs]
      exact congrArg _ htail

end Forward

theorem executed_at_end (hm : m.halting = true) (hstart : 0 ≤ m.pc) (hend : m.pc ≤ m.count)
    (fuel : Nat) :
    (m.executed fuel).map some = m.statements.drop m.pc.toNat ∧
      (m.run fuel).state.pc = m.count := by
  have hpc : m.pc = m.count := by
    simp only [halting, Bool.or_eq_true, decide_eq_true_eq] at hm
    omega
  rw [executed_of_halting hm, run_of_halting hm, hpc, Int.toNat_natCast, count, List.drop_length]
  exact ⟨rfl, hpc⟩

/-- Without jumps, a forward run executes all statements ahead and ends behind the last of them. -/
theorem Forward.executed_of_straight (h : m.Forward) {fuel : Nat} (hfuel : m.stepsAhead ≤ fuel)
    (hstart : 0 ≤ m.pc) (hend : m.pc ≤ m.count) (hstraight : ∀ s ∈ m.executed fuel, s.Straight) :
    (m.executed fuel).map some = m.statements.drop m.pc.toNat ∧
      (m.run fuel).state.pc = m.count := by
  induction fuel generalizing m with
  | zero =>
    have hm : m.halting = true := stepsAhead_eq_zero_iff.mp (by omega)
    exact executed_at_end hm hstart hend 0
  | succ fuel ih =>
    cases hm : m.halting with
    | true => exact executed_at_end hm hstart hend (fuel + 1)
    | false =>
      have hhead : m.Advances := h.head hm
      have hlt := hhead.stepsAhead_lt hm
      have hpc := halting_eq_false_iff.mp hm
      have hexecuted : m.executed (fuel + 1) = m.next?.toList ++ m.step.state.executed fuel := by
        rw [executed_succ hm, hhead.1]
      rw [hexecuted] at hstraight
      have hnext : m.step.state.pc = m.pc + 1 :=
        pc_step_of_straight hm hhead.1 fun s hs => hstraight s (by simp [hs])
      obtain ⟨hrest, hlast⟩ := ih (h.step hm) (by omega) (by omega)
        (by rw [hnext, m.frame_step.count]; omega)
        fun s hs => hstraight s (List.mem_append_right _ hs)
      obtain ⟨s, hs, hstored⟩ := next?_of_step_ok hm hhead.1
      obtain ⟨hlen, hget⟩ := List.getElem?_eq_some_iff.mp hstored
      have hindex : (m.pc + 1).toNat = m.pc.toNat + 1 := by omega
      rw [m.frame_step.statements, hnext, hindex] at hrest
      rw [m.frame_step.count] at hlast
      constructor
      · rw [hexecuted, hs, List.drop_eq_getElem_cons hlen, hget, ← hrest]
        rfl
      · rw [run_succ hm, Outcome.andThen, hhead.1]
        exact hlast

/-- A run of which every step succeeds and goes forward, or out of the program at the front, ends
after one step for each statement ahead at most. It goes from earlier to later places, so that no
statement is executed twice. Without jumps it executes all statements ahead in order. -/
theorem run_of_forward (m : Machine) (h : m.Forward) :
    ∃ m' log, m'.halting = true ∧ ∀ fuel, m.stepsAhead ≤ fuel →
      m.run fuel = ⟨m', log, .ok ()⟩ ∧
      (m.indices fuel).length ≤ m.stepsAhead ∧
      (m.indices fuel).Pairwise (· < ·) ∧
      (∀ p ∈ m.indices fuel, 0 ≤ p ∧ p < m.count) ∧
      (m.executed fuel).map (fun s => some (some s)) =
        ((m.indices fuel).map fun p => m.statements[p.toNat]?) ∧
      (0 ≤ m.pc → m.pc ≤ m.count → (∀ s ∈ m.executed fuel, s.Straight) →
        (m.executed fuel).map some = m.statements.drop m.pc.toNat ∧ m'.pc = m.count) := by
  obtain ⟨m', ⟨log, hrun⟩, hhalting⟩ := h.exists_endsIn
  refine ⟨m', log, hhalting, fun fuel hfuel => ⟨hrun fuel hfuel, ?_, h.pairwise_indices fuel, ?_,
    h.executed_eq fuel, fun hstart hend hstraight => ?_⟩⟩
  · rw [indices, List.length_map]
    exact h.length_visited_le fuel
  · intro p hp
    obtain ⟨x, hx, rfl⟩ := List.mem_map.mp hp
    exact (h.bounds_of_mem_visited hx).2
  · have hall := h.executed_of_straight hfuel hstart hend hstraight
    rwa [hrun fuel hfuel] at hall

/-- A program that jumps over two statements and then out at the front. Of the five statements ahead
two are executed. -/
theorem run_of_forward_leaving :
    ∃ m m' : Machine, ∃ log, m.pc = 1 ∧ m.count = 6 ∧ m.Forward ∧
      m.run 5 = ⟨m', log, .ok ()⟩ ∧ m'.halting = true ∧ m.indices 5 = [1, 4] ∧
      (m.indices 5).Pairwise (· < ·) ∧
      (m.executed 5).map (fun s => some (some s)) = [m.statements[1]?, m.statements[4]?] := by
  let jump (target : Argument) : Slot := some ⟨some ⟨"JUMP", [], .custom [.setPc target], ""⟩, [],
    some "JUMP", none⟩
  let m : Machine := ⟨[8, 0], [none, jump (.combine (· + ·) .pc (.literal 2)), none, none,
    jump (.literal (-3)), none], 1, ⟨[], commentMark⟩, true, []⟩
  have hforward : m.Forward :=
    along_of_step (by decide) (by decide +kernel) ⟨by decide +kernel, by decide +kernel⟩ <|
      along_of_step (by decide +kernel) (by decide +kernel)
        ⟨by decide +kernel, by decide +kernel⟩ <| along_of_halting _ (by decide +kernel)
  obtain ⟨m', log, hhalting, h⟩ := run_of_forward m hforward
  obtain ⟨hrun, -, hsorted, -, hexecuted, -⟩ := h 5 (by decide)
  have hindices : m.indices 5 = [1, 4] := by decide +kernel
  rw [hindices] at hexecuted
  exact ⟨m, m', log, rfl, rfl, hforward, hrun, hhalting, hindices, hsorted, hexecuted⟩

end Machine

end RegisterMachine
