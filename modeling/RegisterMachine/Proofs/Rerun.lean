import RegisterMachine.Proofs.History

/-!
# Programs that are run again

A further run of a program reads its lines from the first one on, while machine and output go on
from where they are. `Program.round` is what one run makes of a program at rest, so that `k` further
runs are `k` rounds (`rerun_eq_iterate`). They leave the machine of a program whose source repeats
the executed lines (`machine_iterate_round`), and their output is that of its passes over these
lines (`Program.passes`), each followed by how the first run ended (`rerun_eq_repeated`).
-/

namespace RegisterMachine

open Machine (standardLanguage)

namespace Language

theorem statements_flatten_replicate (l : Language) (k : Nat) (ls : List String) :
    l.statements (List.replicate k ls).flatten =
      (List.replicate k (l.statements ls)).flatten := by
  induction k with
  | zero => rfl
  | succ k ih =>
    rw [List.replicate_succ, List.replicate_succ, List.flatten_cons, List.flatten_cons,
      statements_append, ih]

end Language

namespace Program

/-! ## Passes over statements -/

/-- The registers after each of the statements `ss`, run from `m`. -/
def entries (ss : List Statement) (m : Machine) : List String :=
  (List.range ss.length).map fun k =>
    Registers.text ((ss.take (k + 1)).foldl Machine.advance m).registers

/-- The entries of `k` passes over the statements `ss`, each starting where the one before it has
left the machine. -/
def passes (ss : List Statement) : Machine → Nat → List (List String)
  | _, 0 => []
  | m, k + 1 => entries ss m :: passes ss (ss.foldl Machine.advance m) k

theorem length_passes (ss : List Statement) (m : Machine) (k : Nat) :
    (passes ss m k).length = k := by
  induction k generalizing m with
  | zero => rfl
  | succ k ih => rw [passes, List.length_cons, ih]

theorem length_of_mem_passes {ss : List Statement} {m : Machine} {k : Nat} {pass : List String}
    (h : pass ∈ passes ss m k) : pass.length = ss.length := by
  induction k generalizing m with
  | zero => cases h
  | succ k ih =>
    rcases List.mem_cons.mp h with rfl | h
    · simp [entries]
    · exact ih h

/-- Statements that repeat `ss` are noted pass by pass. -/
theorem output_foldl_note_repeated (ss : List Statement) (k : Nat) (p : Program) :
    ((List.replicate k ss).flatten.foldl note p).output =
      p.output ++ (passes ss p.machine k).flatten := by
  induction k generalizing p with
  | zero => simp [passes]
  | succ k ih =>
    have hpass : (ss.foldl note p).output = p.output ++ entries ss p.machine :=
      output_foldl_note p ss
    rw [List.replicate_succ, List.flatten_cons, List.foldl_append, ih, machine_foldl_note, hpass,
      passes, List.flatten_cons, List.append_assoc]

/-! ## Rounds -/

/-- The lines in front of the first rejected one. -/
def accepted (ls : List String) : List String := ls.takeWhile standardLanguage.accepts

/-- The program after a run over the lines `ls`. -/
def round (ls : List String) (p : Program) : Program :=
  ((standardLanguage.statements (accepted ls)).foldl note p).settle
    (standardLanguage.complaint? ls)

section
variable (ls : List String) (p : Program)

theorem input_round : (round ls p).input = p.input := by
  unfold round
  generalize standardLanguage.statements (accepted ls) = ss
  show (ss.foldl note p).input = p.input
  induction ss generalizing p with
  | nil => rfl
  | cons s ss ih => exact ih (p.note s)

theorem machine_round :
    (round ls p).machine =
      (standardLanguage.statements (accepted ls)).foldl Machine.advance p.machine := by
  rw [round, machine_settle, machine_foldl_note]

theorem error_round : (round ls p).error = (standardLanguage.complaint? ls).or p.error := by
  rw [round, error_settle, error_foldl_note]

theorem output_round :
    (round ls p).output =
      p.output ++ (entries (standardLanguage.statements (accepted ls)) p.machine ++
        [ending (standardLanguage.complaint? ls)]) := by
  rw [round, output_settle, output_foldl_note, entries, List.append_assoc]

end

section
variable (ls : List String) (k : Nat) (p : Program)

/-- Rounds advance the machine by the statements of the accepted lines, over and over. -/
theorem machine_iterate_round :
    ((round ls)^[k] p).machine =
      (List.replicate k (standardLanguage.statements (accepted ls))).flatten.foldl
        Machine.advance p.machine := by
  induction k generalizing p with
  | zero => rfl
  | succ k ih =>
    rw [Function.iterate_succ_apply, ih, machine_round, List.replicate_succ, List.flatten_cons,
      List.foldl_append]

theorem output_iterate_round :
    ((round ls)^[k] p).output =
      p.output ++ ((passes (standardLanguage.statements (accepted ls)) p.machine k).map
        (· ++ [ending (standardLanguage.complaint? ls)])).flatten := by
  induction k generalizing p with
  | zero => simp [passes]
  | succ k ih =>
    rw [Function.iterate_succ_apply, ih, output_round, machine_round, passes, List.map_cons,
      List.flatten_cons, List.append_assoc]

theorem error_iterate_round (h : p.error = standardLanguage.complaint? ls) :
    ((round ls)^[k] p).error = p.error := by
  induction k generalizing p with
  | zero => rfl
  | succ k ih =>
    have hround : (round ls p).error = p.error := by rw [error_round, h, Option.or_self]
    rw [Function.iterate_succ_apply, ih _ (hround.trans h), hround]

end

/-! ## Runs -/

section
variable {p : Program} {n : Nat} (hlang : p.machine.language = standardLanguage)
  (hp : p.machine.Awaits 1 n [])
include hp

theorem awaits_round : (round p.input p).machine.Awaits 1 (n + p.input.length) [] := by
  refine (awaits_foldl_note hp (accepted p.input)).mono ?_
  exact Nat.add_le_add_left (List.takeWhile_prefix _).length_le n

include hlang

theorem run_eq_round (hn : n + p.input.length < 10 ^ 4000) :
    ∃ log, p.run = ⟨round p.input p, log, .ok ()⟩ :=
  run_eq_settle hlang hp hn

/-- Running a program again and again is one round after another. -/
theorem rerun_eq_iterate (k : Nat) (hn : n + k * p.input.length < 10 ^ 4000) :
    ∃ log, p.rerun k = ⟨(round p.input)^[k] p, log, .ok ()⟩ := by
  induction k generalizing p n with
  | zero => exact ⟨[], rfl⟩
  | succ k ih =>
    rw [Nat.succ_mul] at hn
    obtain ⟨log, hrun⟩ := run_eq_round hlang hp (by omega)
    have hinput := input_round p.input p
    have hlang' : (round p.input p).machine.language = standardLanguage := by
      rw [machine_round, Machine.language_foldl_advance, hlang]
    obtain ⟨log', hrest⟩ := ih hlang' (awaits_round hp) (by rw [hinput]; omega)
    rw [hinput] at hrest
    refine ⟨log ++ log', ?_⟩
    simp only [rerun, hrun, Outcome.andThen, hrest, Function.iterate_succ_apply]

end

/-! ## Source texts -/

/-- All lines are accepted and there is no complaint, or it is about the line behind the accepted
ones. -/
theorem complaint?_cases {ls : List String} (hn : ls.length < 10 ^ 4000) :
    (accepted ls = ls ∧ standardLanguage.complaint? ls = none) ∨
      ∃ (d : Diagnostic) (rest : List String), ls = accepted ls ++ d.lineText :: rest ∧
        d.lineNum = ((accepted ls).length + 1 : Nat) ∧
        standardLanguage.complaint? ls = some d := by
  rcases standardLanguage.accepted_or_rejected ls with
    hall | ⟨front, line, rest, d, hls, hfront, hd⟩
  · exact .inl ⟨List.takeWhile_eq_self_iff.mpr hall, Language.complaint?_of_accepted hall⟩
  · have hline : Decimal.Fits (1 + front.length : Nat) := by
      rw [hls, List.length_append, List.length_cons] at hn
      exact Decimal.fits_natCast (by omega)
    have haccepted : accepted ls = front := by
      rw [accepted, hls, Language.takeWhile_accepts_append hfront hd]
    have hcomplaint := Language.complaint?_of_rejected hfront hd hline rest
    rw [← hls] at hcomplaint
    refine .inr ⟨_, rest, ?_, ?_, hcomplaint⟩
    · rw [haccepted]
      exact hls
    · rw [haccepted, Nat.add_comm]

theorem complaint?_eq_none_iff {ls : List String} (hn : ls.length < 10 ^ 4000) :
    standardLanguage.complaint? ls = none ↔ accepted ls = ls := by
  rcases complaint?_cases hn with ⟨hall, hnone⟩ | ⟨d, rest, hls, -, hsome⟩
  · simp [hall, hnone]
  · have hne : accepted ls ≠ ls := by
      intro hall
      have hlength := congrArg List.length hls
      rw [hall, List.length_append, List.length_cons] at hlength
      omega
    simp [hsome, hne]

theorem line_of_complaint? {ls : List String} (hn : ls.length < 10 ^ 4000) {d : Diagnostic}
    (h : standardLanguage.complaint? ls = some d) :
    d.lineNum = ((accepted ls).length + 1 : Nat) ∧
      ls[(accepted ls).length]? = some d.lineText := by
  rcases complaint?_cases hn with ⟨-, hnone⟩ | ⟨d', rest, hls, hline, hsome⟩
  · rw [hnone] at h
    cases h
  · rw [hsome] at h
    cases h
    have hget := congrArg (·[(accepted ls).length]?) hls
    exact ⟨hline, by simpa using hget⟩

/-- The program made of the accepted lines of a text, `k` times over, makes `k` passes. -/
theorem runText_repeated (source : String) (trace : Bool) (k : Nat)
    (hn : k * (Text.lines source).length < 10 ^ 4000) :
    ∃ r log, runText
        (Text.joined "\n" (List.replicate k (accepted (Text.lines source))).flatten) trace =
          ⟨r, log, .ok ()⟩ ∧
      r.machine = (List.replicate k (standardLanguage.statements
        (accepted (Text.lines source)))).flatten.foldl Machine.advance
          (Machine.standard.setTracing trace) ∧
      r.output = (passes (standardLanguage.statements (accepted (Text.lines source)))
        (Machine.standard.setTracing trace) k).flatten ++ ["HALT"] := by
  have hmem : ∀ line ∈ (List.replicate k (accepted (Text.lines source))).flatten,
      line ∈ accepted (Text.lines source) := by
    intro line hline
    obtain ⟨ls, hls, hline⟩ := List.mem_flatten.mp hline
    rwa [List.eq_of_mem_replicate hls] at hline
  have hlines : ∀ line ∈ (List.replicate k (accepted (Text.lines source))).flatten,
      '\n' ∉ line.toList := fun line hline =>
    Text.newline_notMem_of_mem_lines ((List.takeWhile_prefix _).subset (hmem line hline))
  have haccepts : ∀ line ∈ (List.replicate k (accepted (Text.lines source))).flatten,
      standardLanguage.accepts line = true := fun line hline =>
    List.mem_takeWhile_imp (hmem line hline)
  have hlength : (List.replicate k (accepted (Text.lines source))).flatten.length < 10 ^ 4000 := by
    have hle : (accepted (Text.lines source)).length ≤ (Text.lines source).length :=
      (List.takeWhile_prefix _).length_le
    have hmul := Nat.mul_le_mul_left k hle
    simp only [List.length_flatten, List.map_replicate, List.sum_replicate, smul_eq_mul]
    omega
  obtain ⟨log, hrun⟩ := runText_of_accepted trace
    (Language.accepts_of_mem_lines_joined hlines haccepts)
    (Text.length_lines_joined_lt hlines hlength)
  rw [Language.statements_lines_joined hlines, Language.statements_flatten_replicate] at hrun
  refine ⟨_, log, hrun, ?_, ?_⟩
  · rw [say, machine_foldl_note]
    rfl
  · rw [say, output_foldl_note_repeated]
    rfl

/-- A text that is run, and run `k` times more: `k + 1` rounds of a new program. -/
theorem runText_rerun (source : String) (trace : Bool) (k : Nat)
    (hn : (k + 1) * (Text.lines source).length < 10 ^ 4000) :
    ∃ logP logQ,
      runText source trace = ⟨round (Text.lines source) (ofText source trace), logP, .ok ()⟩ ∧
      (round (Text.lines source) (ofText source trace)).rerun k =
        ⟨(round (Text.lines source))^[k + 1] (ofText source trace), logQ, .ok ()⟩ := by
  rw [Nat.succ_mul] at hn
  have hsource : (ofText source trace).input = Text.lines source := rfl
  have hp := awaits_ofText source trace
  obtain ⟨logP, hrun⟩ := run_eq_round rfl hp (by rw [hsource]; omega)
  have hlang : (round (Text.lines source) (ofText source trace)).machine.language =
      standardLanguage := by
    rw [machine_round, Machine.language_foldl_advance]
    rfl
  have hinput := input_round (Text.lines source) (ofText source trace)
  obtain ⟨logQ, hrerun⟩ := rerun_eq_iterate hlang (awaits_round hp) k
    (by rw [hinput, hsource]; omega)
  rw [hinput] at hrerun
  exact ⟨logP, logQ, hrun, hrerun⟩

/-- `k` rounds of a new program make `k` passes too, and say after each of them how it ended. -/
theorem iterate_round_ofText (source : String) (trace : Bool) (k : Nat) :
    ((round (Text.lines source))^[k] (ofText source trace)).machine =
        (List.replicate k (standardLanguage.statements
          (accepted (Text.lines source)))).flatten.foldl Machine.advance
            (Machine.standard.setTracing trace) ∧
      ((round (Text.lines source))^[k] (ofText source trace)).output =
        ((passes (standardLanguage.statements (accepted (Text.lines source)))
          (Machine.standard.setTracing trace) k).map
            (· ++ [ending (standardLanguage.complaint? (Text.lines source))])).flatten :=
  ⟨machine_iterate_round _ k (ofText source trace), output_iterate_round _ k (ofText source trace)⟩

/-- A program that was run and then run `k` times more. Its machine is that of the program made of
the accepted lines, `k + 1` times over. Its output has a round for each run: the entries of one pass
over these lines, and then the entry that the first run ended with. Its error is still that of the
first run, about the line behind the accepted ones. -/
theorem rerun_eq_repeated (source : String) (trace : Bool) (k : Nat)
    (hn : (k + 1) * (Text.lines source).length < 10 ^ 4000) :
    ∃ p q r logP logQ logR, runText source trace = ⟨p, logP, .ok ()⟩ ∧
      p.rerun k = ⟨q, logQ, .ok ()⟩ ∧
      runText (Text.joined "\n" (List.replicate (k + 1) (accepted (Text.lines source))).flatten)
        trace = ⟨r, logR, .ok ()⟩ ∧
      q.machine = r.machine ∧
      (∃ rounds : List (List String), rounds.length = k + 1 ∧
        (∀ round ∈ rounds, round.length = (History.executed source).length) ∧
        r.output = rounds.flatten ++ ["HALT"] ∧
        q.output = (rounds.map (· ++ [ending p.error])).flatten) ∧
      q.error = p.error ∧ q.halted = p.halted ∧
      (p.error = none ↔ accepted (Text.lines source) = Text.lines source) ∧
      ∀ d, p.error = some d → d.lineNum = ((accepted (Text.lines source)).length + 1 : Nat) ∧
        (Text.lines source)[(accepted (Text.lines source)).length]? = some d.lineText := by
  obtain ⟨logP, logQ, hrun, hrerun⟩ := runText_rerun source trace k hn
  obtain ⟨r, logR, hrepeated, hmachine, houtput⟩ := runText_repeated source trace (k + 1) hn
  obtain ⟨hmachine', houtput'⟩ := iterate_round_ofText source trace (k + 1)
  have herror : (round (Text.lines source) (ofText source trace)).error =
      standardLanguage.complaint? (Text.lines source) := by
    rw [error_round]
    exact Option.or_none
  have herror' : ((round (Text.lines source))^[k + 1] (ofText source trace)).error =
      (round (Text.lines source) (ofText source trace)).error :=
    error_iterate_round (Text.lines source) k _ herror
  refine ⟨_, _, r, logP, logQ, logR, hrun, hrerun, hrepeated, hmachine'.trans hmachine.symm,
    ⟨_, length_passes _ _ (k + 1), ?_, houtput, ?_⟩, herror', congrArg Option.isNone herror', ?_⟩
  · intro pass hpass
    rw [length_of_mem_passes hpass, ← History.length_statements fun _ =>
      History.accepts_of_mem_executed, History.executed, History.statements_filter]
    rfl
  · rw [herror]
    exact houtput'
  · have hlines : (Text.lines source).length < 10 ^ 4000 := by
      rw [Nat.succ_mul] at hn
      omega
    rw [herror]
    exact ⟨complaint?_eq_none_iff hlines, fun d => line_of_complaint? hlines⟩

/-- Three runs of a text that ends in its fourth line: registers and statements go on, and the error
is the same each time. -/
theorem rerun_eq_repeated_three :
    (2 + 1) * (Text.lines "SET 1 2\n\nadd # sum\nJUMP\nADD").length < 10 ^ 4000 ∧
      ∃ p q r logP logQ logR,
        runText "SET 1 2\n\nadd # sum\nJUMP\nADD" false = ⟨p, logP, .ok ()⟩ ∧
        p.rerun 2 = ⟨q, logQ, .ok ()⟩ ∧
        runText "SET 1 2\n\nadd # sum\nSET 1 2\n\nadd # sum\nSET 1 2\n\nadd # sum" false =
          ⟨r, logR, .ok ()⟩ ∧
        q.machine = r.machine ∧ q.machine.registers = [6, 2] ∧ q.machine.pc = 6 ∧
        q.output = ["[0] [2]", "[2] [2]", "ERROR: Unknown instruction",
          "[2] [2]", "[4] [2]", "ERROR: Unknown instruction",
          "[4] [2]", "[6] [2]", "ERROR: Unknown instruction"] ∧
        q.error = some ⟨.unknownInstruction, "Unknown instruction", 4, "JUMP"⟩ ∧
        q.error = p.error := by
  have hn : (2 + 1) * (Text.lines "SET 1 2\n\nadd # sum\nJUMP\nADD").length < 10 ^ 4000 :=
    Decimal.lt_ten_pow (by decide)
  obtain ⟨p, q, r, logP, logQ, logR, hp, hq, hr, hmachine, -, herror, -⟩ :=
    rerun_eq_repeated _ false 2 hn
  have hstate : ((runText "SET 1 2\n\nadd # sum\nJUMP\nADD" false).state.rerun 2).state = q := by
    rw [hp, hq]
  refine ⟨hn, p, q, r, logP, logQ, logR, hp, hq, hr, hmachine, ?_, ?_, ?_, ?_, herror⟩
  · rw [← hstate]
    decide +kernel
  · rw [← hstate]
    decide +kernel
  · rw [← hstate]
    decide +kernel
  · rw [← hstate]
    decide +kernel

end Program

end RegisterMachine
