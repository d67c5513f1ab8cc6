import RegisterMachine.Proofs.Program

/-!
# Line by line or all at once

`Machine.batch` assembles a whole text, loads the statements into a new machine and runs it once.
`Program.runText` assembles, stores and runs one line after another. Both end in the same machine;
if a line is rejected, the program ends like the batch of the lines before it
(`runText_refines_batch`).
-/

namespace RegisterMachine

open Machine (standardLanguage)

namespace Machine

/-- A text assembled in one piece, loaded into a new machine and run once. -/
def batch (trace : Bool) (source : String) (fuel : Nat) : Outcome Machine Unit :=
  ((standard.setTracing trace).load source).andThen fun _ m => m.run fuel

/-- The batch of `source` ends in `m`; one step for each line is enough for it. -/
def BatchEnds (trace : Bool) (source : String) (m : Machine) : Prop :=
  ∀ fuel, (Text.lines source).length ≤ fuel →
    ∃ log, batch trace source fuel = ⟨m, log, .ok ()⟩

theorem load_of_accepted {m : Machine} {source : String}
    (h : ∀ line ∈ Text.lines source, m.language.accepts line = true) :
    m.load source =
      m.append (.sequence ((m.language.statements (Text.lines source)).map some)) := by
  unfold load
  rw [Language.assemble, Language.assembleLines_of_accepted h]
  rfl

theorem batchEnds_of_accepted (trace : Bool) {source : String}
    (h : ∀ line ∈ Text.lines source, standardLanguage.accepts line = true)
    (hn : (Text.lines source).length < 10 ^ 4000) :
    BatchEnds trace source ((standardLanguage.statements (Text.lines source)).foldl advance
      (standard.setTracing trace)) := by
  intro fuel hfuel
  have hlen := Language.length_statements_le standardLanguage (Text.lines source)
  have hrest : (standard.setTracing trace).Awaits 1 0 [] :=
    (awaits_blank 1 standardLanguage).setTracing trace
  have hbuiltin : ∀ s ∈ standardLanguage.statements (Text.lines source), s.Builtin 1 :=
    fun s hs => Language.builtin_of_mem_statements hs
  rw [batch, load_of_accepted (m := standard.setTracing trace) h]
  exact hrest.append_run (by decide) hbuiltin (by omega) (fun _ => fuel) (by omega)

theorem batchEnds_take (trace : Bool) {source : String} {front rest : List String}
    (hsource : Text.lines source = front ++ rest)
    (h : ∀ line ∈ front, standardLanguage.accepts line = true)
    (hn : (Text.lines source).length < 10 ^ 4000) :
    BatchEnds trace (Text.joined "\n" ((Text.lines source).take front.length))
      ((standardLanguage.statements front).foldl advance (standard.setTracing trace)) := by
  have hfront : ∀ line ∈ front, '\n' ∉ line.toList := by
    intro line hline
    have hmem : line ∈ Text.lines source := by simp [hsource, hline]
    exact Text.newline_notMem_of_mem_lines hmem
  have hlen : front.length < 10 ^ 4000 := by
    rw [hsource, List.length_append] at hn
    omega
  have hbatch := batchEnds_of_accepted trace (Language.accepts_of_mem_lines_joined hfront h)
    (Text.length_lines_joined_lt hfront hlen)
  rw [Language.statements_lines_joined hfront] at hbatch
  rwa [hsource, List.take_left]

end Machine

namespace Program

/-- Running a text line by line is running it as a batch: it ends without an error exactly if the
whole text can be assembled, and then in the same machine. Otherwise the error is the one that
assembly reports, and the machine is that of the lines before the rejected one. -/
theorem runText_refines_batch (source : String) (trace : Bool)
    (hn : (Text.lines source).length < 10 ^ 4000) :
    ∃ p log, runText source trace = ⟨p, log, .ok ()⟩ ∧
      (p.error = none ↔ ∃ ss, (standardLanguage.assemble source).1 = .ok ss) ∧
      (p.error = none → Machine.BatchEnds trace source p.machine) ∧
      ∀ e, (standardLanguage.assemble source).1 = .error e →
        ∃ d k, e = .rejected d ∧ p.error = some d ∧ d.lineNum = (k + 1 : Nat) ∧
          (Text.lines source)[k]? = some d.lineText ∧
          Machine.BatchEnds trace (Text.joined "\n" ((Text.lines source).take k)) p.machine := by
  rcases standardLanguage.accepted_or_rejected (Text.lines source) with
    h | ⟨front, line, rest, d, hsource, h, hd⟩
  · obtain ⟨log, hrun⟩ := runText_of_accepted trace h hn
    have hassemble : (standardLanguage.assemble source).1 =
        .ok (standardLanguage.statements (Text.lines source)) := by
      rw [Language.assemble, Language.assembleLines_of_accepted h]
    have hbatch := Machine.batchEnds_of_accepted trace h hn
    refine ⟨_, log, hrun, ?_, fun _ => ?_, fun e he => ?_⟩
    · rw [hassemble]
      simp [say, error_foldl_note, ofText]
    · simpa only [say, machine_foldl_note, ofText] using hbatch
    · rw [hassemble] at he
      cases he
  · obtain ⟨log, hrun⟩ := runText_of_rejected trace hsource h hd hn
    have hline : Decimal.Fits (1 + front.length : Nat) := by
      apply Decimal.fits_natCast
      rw [hsource, List.length_append, List.length_cons] at hn
      omega
    have hassemble : (standardLanguage.assemble source).1 =
        .error (.rejected { d with lineNum := (1 + front.length : Nat), lineText := line }) := by
      rw [Language.assemble, hsource, Language.assembleLines_of_rejected h hd hline]
    have hbatch := Machine.batchEnds_take trace hsource h hn
    refine ⟨_, log, hrun, ?_, fun hnone => ?_, fun e he => ?_⟩
    · rw [hassemble]
      simp [say]
    · simp [say] at hnone
    · rw [hassemble] at he
      cases he
      refine ⟨_, front.length, rfl, rfl, ?_, ?_, ?_⟩
      · rw [Nat.add_comm]
      · simp [hsource]
      · simpa only [say, machine_foldl_note, ofText] using hbatch

/-- A text that runs into an unknown instruction in its fourth line. -/
theorem runText_refines_batch_unknown :
    (Text.lines "set 1 7\n\nADD # once\nJUMP 3\nADD").length < 10 ^ 4000 ∧
      ∃ p log, runText "set 1 7\n\nADD # once\nJUMP 3\nADD" true = ⟨p, log, .ok ()⟩ ∧
        p.error = some ⟨.unknownInstruction, "Unknown instruction", 4, "JUMP 3"⟩ ∧
        Machine.BatchEnds true "set 1 7\n\nADD # once" p.machine := by
  have hn : (Text.lines "set 1 7\n\nADD # once\nJUMP 3\nADD").length < 10 ^ 4000 :=
    Decimal.lt_ten_pow (by decide)
  obtain ⟨p, log, hrun, -, -, hreject⟩ :=
    runText_refines_batch "set 1 7\n\nADD # once\nJUMP 3\nADD" true hn
  obtain ⟨d, k, hd, hp, hk, -, hbatch⟩ :=
    hreject (.rejected ⟨.unknownInstruction, "Unknown instruction", 4, "JUMP 3"⟩) rfl
  cases hd
  obtain rfl : k = 3 := by
    have hk : (4 : Int) = (k + 1 : Nat) := hk
    omega
  exact ⟨hn, p, log, hrun, hp, hbatch⟩

end Program

end RegisterMachine
