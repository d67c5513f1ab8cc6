import RegisterMachine.Repl
import RegisterMachine.Proofs.Effects

/-!
# Changes that execution does not notice

`Machine.Commutes f`: the change `f` of machines leaves registers, statements and program counter
alone, and does not care whether these are changed before it or after it. Then it may be made after
a step or a run as well as before it (`Commutes.step`, `Commutes.run`), and also after a line of a
session if it keeps the meaning of the line (`Repl.respond_commutes`).
-/

namespace RegisterMachine

/-! ## Outcomes seen in part -/

namespace Outcome

variable {σ τ α β : Type}

theorem within_ofFaulty (s : σ) (r : Except Fault α) (f : σ → τ) :
    (ofFaulty s r).within f = ofFaulty (f s) r := by
  cases r <;> rfl

theorem within_andThen (o : Outcome σ α) (f : σ → τ) {k : α → σ → Outcome σ β}
    {k' : α → τ → Outcome τ β} (h : ∀ a s, k' a (f s) = (k a s).within f) :
    (o.andThen k).within f = (o.within f).andThen k' := by
  unfold andThen within
  cases o.result with
  | error e => rfl
  | ok a =>
    simp only [h]
    rfl

end Outcome

/-! ## Execution -/

namespace Machine

/-- The change `f` leaves alone what is executed, and commutes with what execution changes. -/
structure Commutes (f : Machine → Machine) : Prop where
  registers : ∀ m, (f m).registers = m.registers
  statements : ∀ m, (f m).statements = m.statements
  pc : ∀ m, (f m).pc = m.pc
  setPc : ∀ m value, (f m).setPc value = f (m.setPc value)
  applied : ∀ m effects, (f m).applied effects = f (m.applied effects)
  keepTrace : ∀ m e, (f m).keepTrace e = f (m.keepTrace e)
  append : ∀ m offer, (f m).append offer = (m.append offer).within f

namespace Commutes

variable {f : Machine → Machine} (hf : Commutes f) (m : Machine)
include hf

theorem halting : (f m).halting = m.halting := by
  rw [Machine.halting, count, hf.pc, hf.statements]
  rfl

theorem fetch : (f m).fetch? = m.fetch? := by
  rw [fetch?, hf.halting, hf.statements, hf.pc]
  rfl

theorem view (operands : List Int) : (f m).view operands = m.view operands := by
  rw [Machine.view, count, hf.registers, hf.statements, hf.pc]
  rfl

theorem summary : (f m).summary = m.summary := by
  rw [Machine.summary, hf.registers]
  rfl

/-- A report that fails does so before it comes to the trace. -/
theorem report (pc : Int) (s : Statement) : (f m).report pc s = (m.report pc s).within f := by
  unfold Machine.report
  cases s.text with
  | none => rfl
  | some text =>
    dsimp only
    rw [hf.registers]
    split
    · rw [hf.keepTrace]
      rfl
    · rfl

theorem step : (f m).step = m.step.within f := by
  cases hfetch : m.fetch? with
  | none =>
    simp only [Machine.step, hf.fetch, hfetch]
    rfl
  | some slot =>
    cases slot with
    | none =>
      simp only [Machine.step, hf.fetch, hfetch, hf.pc, hf.setPc]
      rfl
    | some s =>
      -- both statements see the same, so that they complete the same effects
      obtain ⟨effects, r, h⟩ := s.exists_completes ((m.setPc (m.pc + 1)).view s.operands)
      have hsame : ((f m).setPc ((f m).pc + 1)).view s.operands =
          (m.setPc (m.pc + 1)).view s.operands := by
        rw [hf.pc, hf.setPc, hf.view]
      rw [step_of_completes hfetch h, step_of_completes ((hf.fetch m).trans hfetch) (hsame ▸ h),
        hf.pc, hf.setPc, hf.applied]
      cases r with
      | none => exact hf.report _ m.pc s
      | some fault => rfl

theorem run (fuel : Nat) : (f m).run fuel = (m.run fuel).within f := by
  induction fuel generalizing m with
  | zero =>
    unfold Machine.run
    rw [hf.halting]
    split <;> rfl
  | succ fuel ih =>
    cases hm : m.halting with
    | true =>
      rw [run_of_halting hm, run_of_halting ((hf.halting m).trans hm)]
      rfl
    | false =>
      rw [run_succ hm, run_succ ((hf.halting m).trans hm), hf.step]
      exact (Outcome.within_andThen _ _ fun _ m' => ih m').symm

end Commutes

end Machine

/-! ## Lines of a session -/

/-- A line is answered in the same way after a change if it is assembled to the same and, in case it
asks for help, help is the same. -/
theorem Repl.respond_commutes {f : Machine → Machine} (hf : Machine.Commutes f) (fuel : Nat)
    {m : Machine} {text : Option String} (hmark : (f m).language.mark = m.language.mark)
    (hline : (f m).language.assembleLine text = m.language.assembleLine text)
    (hhelp : (Line.scan m.language.mark (text.getD "")).keyword = some helpKeyword →
      help (f m) = help m) :
    respond fuel (f m) text = (respond fuel m text).within f := by
  unfold respond
  rw [hmark, hline]
  split
  · next hasks =>
    rw [hhelp hasks]
    exact (Outcome.within_ofFaulty _ _ _).symm
  · rcases m.language.assembleLine text with d | _ | s
    · rfl
    · dsimp only
      rw [hf.summary]
      exact (Outcome.within_ofFaulty _ _ _).symm
    · dsimp only
      rw [hf.append, Outcome.within_andThen, Outcome.within_andThen]
      · exact fun _ m' => hf.run m' fuel
      · intro _ m'
        rw [hf.summary]
        exact (Outcome.within_ofFaulty _ _ _).symm

end RegisterMachine
