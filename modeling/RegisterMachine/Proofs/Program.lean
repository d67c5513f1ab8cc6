import RegisterMachine.Program
import RegisterMachine.Proofs.Run
import RegisterMachine.Proofs.Text.Lines

/-!
# Runs of programs

`Program.note`: the program after one statement, with its registers in the output. A program that
starts at rest notes the statements of its accepted lines one after another (`runLines_append`) and
ends with `HALT`, or at its first rejected line (`run_of_accepted`, `run_of_rejected`; both in one:
`run_eq_settle`).
-/

namespace RegisterMachine

open Machine (standardLanguage)

namespace Program

/-- The program after the statement `s` was run and the registers were noted. -/
def note (p : Program) (s : Statement) : Program :=
  { p with machine := p.machine.advance s }.say (Registers.text (p.machine.advance s).registers)

theorem machine_foldl_note (p : Program) (ss : List Statement) :
    (ss.foldl note p).machine = ss.foldl Machine.advance p.machine := by
  induction ss generalizing p with
  | nil => rfl
  | cons s ss ih => exact ih (p.note s)

theorem error_foldl_note (p : Program) (ss : List Statement) :
    (ss.foldl note p).error = p.error := by
  induction ss generalizing p with
  | nil => rfl
  | cons s ss ih => exact ih (p.note s)

theorem output_foldl_note (p : Program) (ss : List Statement) :
    (ss.foldl note p).output = p.output ++ (List.range ss.length).map fun k =>
      Registers.text ((ss.take (k + 1)).foldl Machine.advance p.machine).registers := by
  induction ss using List.reverseRecOn with
  | nil => simp
  | append_singleton ss s ih =>
    -- the entries of `ss` come from lists that `s` does not reach
    have hfront : ∀ k ∈ List.range ss.length,
        Registers.text ((ss.take (k + 1)).foldl Machine.advance p.machine).registers =
          Registers.text
            (((ss ++ [s]).take (k + 1)).foldl Machine.advance p.machine).registers := by
      intro k hk
      rw [List.take_append_of_le_length (List.mem_range.mp hk)]
    have hlast : (ss ++ [s]).take (ss.length + 1) = ss ++ [s] := List.take_of_length_le (by simp)
    have hsay : ((ss ++ [s]).foldl note p).output = (ss.foldl note p).output ++
        [Registers.text ((ss ++ [s]).foldl Machine.advance p.machine).registers] := by
      rw [List.foldl_append, List.foldl_append, ← machine_foldl_note]
      rfl
    rw [hsay, ih, List.length_append, List.length_singleton, List.range_succ, List.map_append,
      List.map_congr_left hfront, List.map_singleton, hlast, List.append_assoc]

/-! ## Lines -/

variable {p : Program} {n : Nat}

theorem execute_eq_note {s : Statement} (h : p.machine.Awaits 1 n []) (hs : s.Builtin 1)
    (hn : n + 1 < 10 ^ 4000) : ∃ log, p.execute s = ⟨p.note s, log, .ok ()⟩ := by
  have hfuel : 1 ≤ (p.machine.store [s]).count := by simp [Machine.count_store]
  obtain ⟨log, hrun⟩ := h.append_run_single (by decide) hs hn Machine.count hfuel
  have hsummary : (p.machine.advance s).summary =
      .ok (Registers.text (p.machine.advance s).registers) := if_pos (h.fit_advance hs hn)
  refine ⟨log, ?_⟩
  unfold execute
  rw [hrun]
  simp only [Outcome.within, Outcome.andThen, hsummary, Outcome.ofFaulty, Outcome.done,
    List.append_nil]
  rfl

/-- Accepted lines are run, and the rest of the lines goes on from there. -/
theorem runLines_append {front : List String} (hlang : p.machine.language = standardLanguage)
    (h : p.machine.Awaits 1 n [])
    (hfront : ∀ line ∈ front, standardLanguage.accepts line = true)
    (hn : n + front.length < 10 ^ 4000) (k : Nat) (rest : List String) :
    ∃ log, p.runLines k (front ++ rest) =
      (((standardLanguage.statements front).foldl note p).runLines (k + front.length)
        rest).after log := by
  induction front generalizing p n k with
  | nil => exact ⟨[], rfl⟩
  | cons line front ih =>
    have hrest : ∀ line ∈ front, standardLanguage.accepts line = true :=
      fun f hf => hfront f (List.mem_cons_of_mem _ hf)
    simp only [List.length_cons] at hn
    obtain ⟨slot, hslot⟩ := Language.accepts_iff.mp (hfront line List.mem_cons_self)
    rw [Language.statements_cons hslot, List.length_cons,
      show k + (front.length + 1) = k + 1 + front.length by omega]
    cases slot with
    | none =>
      obtain ⟨log, hlog⟩ := ih hlang h hrest (by omega) (k + 1)
      refine ⟨log, ?_⟩
      simp only [List.cons_append, runLines, hlang, hslot, hlog]
      rfl
    | some s =>
      have hs : s.Builtin 1 := ((Language.assembleLine_eq_some_iff _ _ _).mp hslot).builtin.1
      obtain ⟨log, hexec⟩ := execute_eq_note h hs (by omega)
      have hadds := s.adds_le_one
      obtain ⟨log', hlog⟩ := ih (p := p.note s) hlang (h.advance hs) hrest (by omega) (k + 1)
      refine ⟨log ++ log', ?_⟩
      simp only [List.cons_append, runLines, hlang, hslot, hexec, Outcome.andThen]
      rw [hlog]
      simp [Outcome.after]

/-! ## Runs -/

/-- The last entry of a run, which met the rejected line `e` or none. -/
def ending : Option Diagnostic → String
  | none => "HALT"
  | some e => "ERROR: " ++ e.detail

/-- The end of a run. Without a rejected line the error stays what it was. -/
def settle (p : Program) (e : Option Diagnostic) : Program :=
  { p with error := e.or p.error }.say (ending e)

@[simp] theorem machine_settle (p : Program) (e : Option Diagnostic) :
    (p.settle e).machine = p.machine := rfl

@[simp] theorem output_settle (p : Program) (e : Option Diagnostic) :
    (p.settle e).output = p.output ++ [ending e] := rfl

@[simp] theorem error_settle (p : Program) (e : Option Diagnostic) :
    (p.settle e).error = e.or p.error := rfl

section
variable (hlang : p.machine.language = standardLanguage) (hp : p.machine.Awaits 1 n [])
include hp

/-- A program after accepted lines is at rest, with registers that can be written. -/
theorem awaits_foldl_note (ls : List String) :
    ((standardLanguage.statements ls).foldl note p).machine.Awaits 1 (n + ls.length) [] := by
  rw [machine_foldl_note]
  refine (hp.foldl_advance fun s hs => Language.builtin_of_mem_statements hs).mono ?_
  exact Nat.add_le_add_left (Language.length_statements_le _ _) n

include hlang

theorem run_of_accepted (h : ∀ line ∈ p.input, standardLanguage.accepts line = true)
    (hn : n + p.input.length < 10 ^ 4000) :
    ∃ log, p.run =
      ⟨((standardLanguage.statements p.input).foldl note p).settle none, log, .ok ()⟩ := by
  obtain ⟨log, hrun⟩ := runLines_append hlang hp h hn 1 []
  rw [List.append_nil] at hrun
  have hfit := (awaits_foldl_note hp p.input).bounded.fit hn
  rw [run, hrun, runLines, finish, if_pos hfit]
  exact ⟨_, rfl⟩

theorem run_of_rejected {front : List String} {line : String} {rest : List String} {d : Diagnostic}
    (hinput : p.input = front ++ line :: rest)
    (h : ∀ line ∈ front, standardLanguage.accepts line = true)
    (hd : standardLanguage.assembleLine line = .error d)
    (hn : n + p.input.length < 10 ^ 4000) :
    ∃ log, p.run =
      ⟨((standardLanguage.statements front).foldl note p).settle
        (some { d with lineNum := (1 + front.length : Nat), lineText := line }), log, .ok ()⟩ := by
  have hlen : front.length < p.input.length := by simp [hinput]
  obtain ⟨log, hrun⟩ := runLines_append hlang hp h (by omega) 1 (line :: rest)
  have hline : Decimal.Fits (1 + front.length : Nat) := Decimal.fits_natCast (by omega)
  have hlang' : ((standardLanguage.statements front).foldl note p).machine.language =
      standardLanguage := by
    rw [machine_foldl_note, Machine.language_foldl_advance, hlang]
  rw [run, hinput, hrun, runLines, hlang', hd]
  simp only [stop, Diagnostic.atLine_of_fits hline, (Language.plain_of_assembleLine hd).message_eq]
  exact ⟨_, rfl⟩

/-- A run executes the lines before the first rejected one and ends with what assembly has to say
about that one. -/
theorem run_eq_settle (hn : n + p.input.length < 10 ^ 4000) :
    ∃ log, p.run =
      ⟨((standardLanguage.statements (p.input.takeWhile standardLanguage.accepts)).foldl note
        p).settle (standardLanguage.complaint? p.input), log, .ok ()⟩ := by
  rcases standardLanguage.accepted_or_rejected p.input with
    h | ⟨front, line, rest, d, hinput, h, hd⟩
  · rw [List.takeWhile_eq_self_iff.mpr h, Language.complaint?_of_accepted h]
    exact run_of_accepted hlang hp h hn
  · have hline : Decimal.Fits (1 + front.length : Nat) := by
      rw [hinput, List.length_append, List.length_cons] at hn
      exact Decimal.fits_natCast (by omega)
    have htake : p.input.takeWhile standardLanguage.accepts = front := by
      rw [hinput, Language.takeWhile_accepts_append h hd]
    rw [htake, hinput, Language.complaint?_of_rejected h hd hline]
    exact run_of_rejected hlang hp hinput h hd hn

end

/-! ## Source texts -/

theorem awaits_ofText (source : String) (trace : Bool) :
    (ofText source trace).machine.Awaits 1 0 [] :=
  (Machine.awaits_blank 1 standardLanguage).setTracing trace

theorem runText_of_accepted {source : String} (trace : Bool)
    (h : ∀ line ∈ Text.lines source, standardLanguage.accepts line = true)
    (hn : (Text.lines source).length < 10 ^ 4000) :
    ∃ log, runText source trace =
      ⟨((standardLanguage.statements (Text.lines source)).foldl note
        (ofText source trace)).say "HALT", log, .ok ()⟩ :=
  run_of_accepted (p := ofText source trace) rfl (awaits_ofText source trace) h
    (by rwa [Nat.zero_add])

theorem runText_of_rejected {source : String} (trace : Bool) {front : List String} {line : String}
    {rest : List String} {d : Diagnostic} (hsource : Text.lines source = front ++ line :: rest)
    (h : ∀ line ∈ front, standardLanguage.accepts line = true)
    (hd : standardLanguage.assembleLine line = .error d)
    (hn : (Text.lines source).length < 10 ^ 4000) :
    ∃ log, runText source trace =
      ⟨{ (standardLanguage.statements front).foldl note (ofText source trace) with
          error := some { d with lineNum := (1 + front.length : Nat), lineText := line } }.say
        ("ERROR: " ++ d.detail), log, .ok ()⟩ :=
  run_of_rejected (p := ofText source trace) rfl (awaits_ofText source trace) hsource h hd
    (by rwa [Nat.zero_add])

end Program

/-! ## Texts made of lines -/

section
variable {ls : List String} (hls : ∀ line ∈ ls, '\n' ∉ line.toList)
include hls

theorem Text.length_lines_joined_lt (hn : ls.length < 10 ^ 4000) :
    (Text.lines (Text.joined "\n" ls)).length < 10 ^ 4000 := by
  rw [Text.lines_joined hls]
  split
  · exact Decimal.lt_ten_pow (by decide)
  · exact hn

theorem Language.accepts_of_mem_lines_joined
    (h : ∀ line ∈ ls, standardLanguage.accepts line = true) :
    ∀ line ∈ Text.lines (Text.joined "\n" ls), standardLanguage.accepts line = true := by
  rw [Text.lines_joined hls]
  split
  · intro line hline
    rw [List.mem_singleton.mp hline]
    decide
  · exact h

/-- Without any lines, the text has an empty one, which has no statement. -/
theorem Language.statements_lines_joined :
    standardLanguage.statements (Text.lines (Text.joined "\n" ls)) =
      standardLanguage.statements ls := by
  rw [Text.lines_joined hls]
  split
  · next hnil =>
    rw [hnil]
    rfl
  · rfl

end

end RegisterMachine
