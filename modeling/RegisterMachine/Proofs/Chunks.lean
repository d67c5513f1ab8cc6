import RegisterMachine.Proofs.Forward
import RegisterMachine.Proofs.Run

/-!
# Loading a program in chunks

`Machine.feed` stores chunks of statements one after another and runs the machine after each. If no
statement jumps or looks at the number of stored statements, it ends where storing all of them and
running once ends, wherever the program counter is at the start (`feed_eq_feed_flatten`). Some
chunks may run nothing, and a later one may wake the machine in the middle of itself.

* `Statement.Countless`: a statement that does not look at the number of stored statements.
* `step_store`: a step over such a statement does the same with more statements behind the program.
* `exists_endsIn_of_store`: the run of a longer program does first what the run of the shorter does.
-/

namespace RegisterMachine

/-! ## Statements that do not count -/

def View.withCount (v : View) (n : Nat) : View := { v with count := n }

/-- The value, or the failure to compute it, is the same for any number of stored statements. -/
def Argument.Countless (arg : Argument) : Prop :=
  ∀ (v : View) (n : Nat), arg.read (v.withCount n) = arg.read v

def Action.Countless : Action → Prop
  | .setPc value => value.Countless
  | .setRegister index value => index.Countless ∧ value.Countless

/-- No argument of an action is computed from the number of stored statements. -/
def Statement.Countless (s : Statement) : Prop := ∀ a ∈ s.actions, a.Countless

theorem Argument.Countless.combine (f : Int → Int → Int) {a b : Argument} (ha : a.Countless)
    (hb : b.Countless) : (Argument.combine f a b).Countless := by
  intro v n
  simp only [Argument.combine, ha v n, hb v n]

section
variable {v : View} (n : Nat)

theorem Action.Has.withCount {a : Action} {e : Effect} (h : a.Has v e) (ha : a.Countless) :
    a.Has (v.withCount n) e := by
  cases h with
  | setPc hvalue => exact .setPc ((ha v n).trans hvalue)
  | setRegister hindex hvalue hwide hin =>
    exact .setRegister ((ha.1 v n).trans hindex) ((ha.2 v n).trans hvalue) hwide hin

theorem Action.Fails.withCount {a : Action} {f : Fault} (h : a.Fails v f) (ha : a.Countless) :
    a.Fails (v.withCount n) f := by
  cases h with
  | target hvalue => exact .target ((ha v n).trans hvalue)
  | index hindex => exact .index ((ha.1 v n).trans hindex)
  | value hindex hvalue => exact .value ((ha.1 v n).trans hindex) ((ha.2 v n).trans hvalue)
  | tooWide hindex hvalue hwide =>
    exact .tooWide ((ha.1 v n).trans hindex) ((ha.2 v n).trans hvalue) hwide
  | outside hindex hvalue hwide hout =>
    exact .outside ((ha.1 v n).trans hindex) ((ha.2 v n).trans hvalue) hwide hout

theorem Completes.withCount {as : List Action} {effects : List Effect} {r : Option Fault}
    (h : Completes v as effects r) (has : ∀ a ∈ as, a.Countless) :
    Completes (v.withCount n) as effects r := by
  induction h with
  | done => exact .done _
  | failed hfails => exact .failed (hfails.withCount n (has _ List.mem_cons_self))
  | effect hhas _ ih =>
    exact .effect (hhas.withCount n (has _ List.mem_cons_self))
      (ih fun a ha => has a (List.mem_cons_of_mem _ ha))

theorem Statement.Completes.withCount {s : Statement} {effects : List Effect} {r : Option Fault}
    (h : s.Completes v effects r) (hs : s.Countless) : s.Completes (v.withCount n) effects r := by
  cases h with
  | accepted haccepts h => exact .accepted haccepts (h.withCount n hs)
  | refused hi haccepts => exact .refused hi haccepts

end

namespace Machine

variable {m : Machine}

/-! ## More statements behind the program -/

theorem store_store (m : Machine) (ss ts : List Statement) :
    (m.store ss).store ts = m.store (ss ++ ts) := by
  simp [store]

theorem halting_store (hm : m.halting = false) (ss : List Statement) :
    (m.store ss).halting = false := by
  rw [halting_eq_false_iff] at hm ⊢
  rw [count_store]
  exact ⟨hm.1, by have hlt := hm.2; simp only [store]; omega⟩

theorem fetch?_store (hm : m.halting = false) (ss : List Statement) :
    (m.store ss).fetch? = m.fetch? := by
  have hpc := halting_eq_false_iff.mp hm
  rw [count] at hpc
  rw [fetch?, fetch?, halting_store hm, hm]
  simp only [store, Bool.false_eq_true, if_false]
  rw [List.getElem?_append_left (by omega)]

theorem report_store (m : Machine) (pc : Int) (s : Statement) (ss : List Statement) :
    (m.store ss).report pc s = (m.report pc s).within (store · ss) := by
  cases htext : s.text with
  | none =>
    simp only [report, htext]
    rfl
  | some line =>
    rw [report_eq htext, report_eq htext]
    by_cases hfit : Registers.Fit m.registers
    · have hfit' : Registers.Fit (m.store ss).registers := hfit
      rw [if_pos hfit, if_pos hfit']
      rfl
    · have hfit' : ¬ Registers.Fit (m.store ss).registers := hfit
      rw [if_neg hfit, if_neg hfit']
      rfl

/-- Statements behind the program do not matter to one that does not count them. -/
theorem step_store (hm : m.halting = false) (hs : ∀ s, m.next? = some s → s.Countless)
    (ss : List Statement) : (m.store ss).step = m.step.within (store · ss) := by
  obtain ⟨slot, -, hfetch⟩ := fetch?_of_not_halting hm
  have hfetch' := (fetch?_store hm ss).trans hfetch
  cases slot with
  | none =>
    simp only [step, hfetch, hfetch']
    rfl
  | some s =>
    obtain ⟨effects, r, heffects⟩ := s.exists_completes ((m.setPc (m.pc + 1)).view s.operands)
    have heffects' := heffects.withCount (m.store ss).count (hs s (by rw [next?, hfetch]; rfl))
    rw [step_of_completes hfetch heffects, step_of_completes hfetch' heffects']
    cases r with
    | some f => rfl
    | none => exact report_store ((m.setPc (m.pc + 1)).applied effects) m.pc s ss

/-! ## Runs of a longer program -/

def Unfailing (m : Machine) : Prop := m.Along fun x => x.step.result = .ok ()

/-- No stored statement jumps or counts the statements. -/
def Sequential (m : Machine) : Prop := ∀ s, some s ∈ m.statements → s.Straight ∧ s.Countless

theorem mem_of_next? {s : Statement} (h : m.next? = some s) : some s ∈ m.statements := by
  cases hm : m.halting with
  | true =>
    rw [next?_of_halting hm] at h
    cases h
  | false =>
    obtain ⟨slot, hslot, hfetch⟩ := fetch?_of_not_halting hm
    rw [next?, hfetch] at h
    cases h
    exact hslot

theorem Sequential.of_frame {m' : Machine} (h : m.Sequential) (hframe : Frame m m') :
    m'.Sequential := by
  rw [Sequential, hframe.statements]
  exact h

/-- The run of a longer program does first what the run of the shorter one does, and then goes on
from there. By induction on the statements ahead in the shorter program. -/
theorem exists_endsIn_of_store {ss : List Statement} (hseq : m.Sequential)
    (hok : (m.store ss).Unfailing) :
    ∃ m₁, m.EndsIn m₁ ∧ Frame m m₁ ∧ m₁.halting = true ∧ (m₁.store ss).Unfailing ∧
      ∀ m', (m₁.store ss).EndsIn m' → (m.store ss).EndsIn m' := by
  generalize hn : m.stepsAhead = n
  induction n using Nat.strongRecOn generalizing m with
  | _ n ih =>
    cases hm : m.halting with
    | true => exact ⟨m, endsIn_of_halting hm, .refl m, hm, hok, fun _ h => h⟩
    | false =>
      have hm' := halting_store hm ss
      have hstep := step_store hm (fun s hs => (hseq s (mem_of_next? hs)).2) ss
      have hresult' : (m.store ss).step.result = .ok () := hok.head hm'
      have hresult : m.step.result = .ok () := by
        rw [hstep] at hresult'
        exact hresult'
      have hpc : m.step.state.pc = m.pc + 1 :=
        pc_step_of_straight hm hresult fun s hs => (hseq s (mem_of_next? hs)).1
      have hadvances : m.Advances := ⟨hresult, .inl (by omega)⟩
      have hadvances' : (m.store ss).Advances := by
        refine ⟨hresult', .inl ?_⟩
        rw [hstep]
        exact show m.pc < m.step.state.pc by omega
      have hrest' := Along.step hok hm' hresult'
      rw [hstep] at hrest'
      have hlt := hadvances.stepsAhead_lt hm
      obtain ⟨m₁, hends, hframe, hhalting, hok₁, hback⟩ :=
        ih _ (by omega) (hseq.of_frame m.frame_step) hrest' rfl
      refine ⟨m₁, hadvances.endsIn hm hends, m.frame_step.trans hframe, hhalting, hok₁,
        fun m' h => hadvances'.endsIn hm' ?_⟩
      rw [hstep]
      exact hback m' h

/-! ## Chunks -/

/-- Stores chunks of statements one after another and runs the machine after each, as long as no run
fails. -/
def feed (fuel : Nat) (m : Machine) : List (List Statement) → Outcome Machine Unit
  | [] => .done m ()
  | chunk :: chunks =>
    ((m.append (.sequence (chunk.map some))).andThen fun _ m' => m'.run fuel).andThen
      fun _ m' => m'.feed fuel chunks

theorem stepsAhead_le_count (m : Machine) : m.stepsAhead ≤ m.count := by
  unfold stepsAhead
  split <;> omega

theorem feed_cons {m₁ : Machine} {fuel : Nat} {chunk : List Statement}
    (h : (m.store chunk).EndsIn m₁) (hfuel : (m.store chunk).count ≤ fuel)
    (chunks : List (List Statement)) :
    ∃ log, m.feed fuel (chunk :: chunks) = (m₁.feed fuel chunks).after log := by
  obtain ⟨log, hrun⟩ := h
  have hahead := (m.store chunk).stepsAhead_le_count
  have hrun := hrun fuel (by omega)
  refine ⟨.appended chunk.length (m.store chunk).count m.pc :: log, ?_⟩
  simp only [feed, append_eq_store, Outcome.andThen, hrun]
  rfl

/-- Without any chunk nothing is run, so that the machine has to be halting already. -/
theorem feed_endsIn {chunks : List (List Statement)} (hidle : chunks = [] → m.halting = true)
    (hseq : (m.store chunks.flatten).Sequential) (hok : (m.store chunks.flatten).Unfailing) :
    ∃ m', (m.store chunks.flatten).EndsIn m' ∧ ∀ fuel, (m.store chunks.flatten).count ≤ fuel →
      ∃ log, m.feed fuel chunks = ⟨m', log, .ok ()⟩ := by
  induction chunks generalizing m with
  | nil =>
    rw [List.flatten_nil, store_nil]
    exact ⟨m, endsIn_of_halting (hidle rfl), fun fuel _ => ⟨[], rfl⟩⟩
  | cons chunk chunks ih =>
    rw [List.flatten_cons, ← store_store] at hseq hok ⊢
    have hfirst : (m.store chunk).Sequential := fun s hs => hseq s (List.mem_append_left _ hs)
    obtain ⟨m₁, hends, hframe, hhalting, hok₁, hback⟩ := exists_endsIn_of_store hfirst hok
    have hstored : (m₁.store chunks.flatten).statements =
        ((m.store chunk).store chunks.flatten).statements := by
      rw [store, hframe.statements]
      rfl
    have hseq₁ : (m₁.store chunks.flatten).Sequential := by
      rw [Sequential, hstored]
      exact hseq
    obtain ⟨m', hends', hfeed⟩ := ih (fun _ => hhalting) hseq₁ hok₁
    refine ⟨m', hback m' hends', fun fuel hfuel => ?_⟩
    rw [count_store] at hfuel
    have henough : (m.store chunk).count ≤ fuel := by omega
    obtain ⟨log, hchunk⟩ := feed_cons hends henough chunks
    obtain ⟨log', hrest⟩ := hfeed fuel (by rw [count_store, hframe.count]; omega)
    rw [hchunk, hrest]
    exact ⟨log ++ log', rfl⟩

/-- Chunks of statements that neither jump nor count, each stored and run before the next, leave the
machine that storing all of them and running once leaves, if no step of that run fails. Both ways
end, with a step for each statement. Stored statements and program counter are arbitrary. -/
theorem feed_eq_feed_flatten (m : Machine) (chunks : List (List Statement)) (hne : chunks ≠ [])
    (hstored : ∀ s, some s ∈ m.statements → s.Straight ∧ s.Countless)
    (hchunks : ∀ s ∈ chunks.flatten, s.Straight ∧ s.Countless)
    (hok : (m.store chunks.flatten).Unfailing) :
    ∃ m', ∀ fuel, m.count + chunks.flatten.length ≤ fuel →
      (∃ log, m.feed fuel [chunks.flatten] = ⟨m', log, .ok ()⟩) ∧
        ∃ log, m.feed fuel chunks = ⟨m', log, .ok ()⟩ := by
  have hseq : (m.store chunks.flatten).Sequential := by
    intro s hs
    rcases List.mem_append.mp hs with hs | hs
    · exact hstored s hs
    · exact hchunks s (by simpa using hs)
  obtain ⟨m', hends, hfeed⟩ := feed_endsIn (fun h => absurd h hne) hseq hok
  refine ⟨m', fun fuel hfuel => ?_⟩
  rw [← count_store] at hfuel
  refine ⟨?_, hfeed fuel hfuel⟩
  obtain ⟨log, hall⟩ := feed_cons hends hfuel []
  exact ⟨log ++ [], hall⟩

/-- The program counter stands three places behind the only stored statement. Two of the chunks run
nothing, and the third wakes the machine in the middle of itself. -/
theorem feed_eq_feed_flatten_waking :
    ∃ (m : Machine) (chunks : List (List Statement)) (m' : Machine),
      m.pc = 4 ∧ m.count = 1 ∧ chunks.map List.length = [2, 0, 3] ∧
      (∀ s, some s ∈ m.statements → s.Straight ∧ s.Countless) ∧
      (∀ s ∈ chunks.flatten, s.Straight ∧ s.Countless) ∧ (m.store chunks.flatten).Unfailing ∧
      (∃ log, m.feed 6 [chunks.flatten] = ⟨m', log, .ok ()⟩) ∧
      (∃ log, m.feed 6 chunks = ⟨m', log, .ok ()⟩) ∧
      m'.registers = [7, 13] ∧ m'.pc = 6 ∧ m'.trace.map Execution.pc = [4, 5] := by
  let note : Statement := ⟨some ⟨"NOTE", [], .custom [.setRegister (.literal (-1))
    (.combine (· + ·) .pc (.register 0))], ""⟩, [], some "NOTE", none⟩
  let m : Machine := ⟨[7, 0], [some note], 4, ⟨[], commentMark⟩, true, []⟩
  let chunks : List (List Statement) := [[note, note], [], [note, note, note]]
  have hnote : note.Straight ∧ note.Countless := by
    refine ⟨by decide, ?_⟩
    intro a ha
    obtain rfl := List.mem_singleton.mp ha
    exact ⟨fun _ _ => rfl, .combine _ (fun _ _ => rfl) fun _ _ => rfl⟩
  have hstored : ∀ s, some s ∈ m.statements → s.Straight ∧ s.Countless := by
    intro s hs
    obtain rfl : s = note := by simpa [m] using hs
    exact hnote
  have hchunks : ∀ s ∈ chunks.flatten, s.Straight ∧ s.Countless := by
    intro s hs
    obtain rfl : s = note := by simpa [chunks] using hs
    exact hnote
  have hok : (m.store chunks.flatten).Unfailing :=
    along_of_step (by decide) (by decide +kernel) (by decide +kernel) <|
      along_of_step (by decide +kernel) (by decide +kernel) (by decide +kernel) <|
        along_of_halting _ (by decide +kernel)
  obtain ⟨m', h⟩ := feed_eq_feed_flatten m chunks (by decide) hstored hchunks hok
  obtain ⟨hall, log, hfeed⟩ := h 6 (by decide)
  have hstate : (m.feed 6 chunks).state.registers = [7, 13] ∧ (m.feed 6 chunks).state.pc = 6 ∧
      (m.feed 6 chunks).state.trace.map Execution.pc = [4, 5] := by decide +kernel
  rw [hfeed] at hstate
  exact ⟨m, chunks, m', rfl, rfl, rfl, hstored, hchunks, hok, hall, ⟨log, hfeed⟩, hstate⟩

end Machine

end RegisterMachine
