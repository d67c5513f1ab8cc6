import RegisterMachine.Proofs.Bounds
import RegisterMachine.Proofs.Text.Lines

/-!
# Texts put one after the other

Assembly of two texts with a line feed between them gives the statements of both, or the error of
the first that has one. An error of the second text keeps its kind, its detail and its line; the
number of the line grows by the lines of the first (`assemble_append_newline`).
-/

namespace RegisterMachine

theorem Diagnostic.message_of_lineNum {d : Diagnostic} {n : Nat} (hn : n ≠ 0)
    (h : d.lineNum = n) : d.message = "Line " ++ Decimal.text d.lineNum ++ ": " ++ d.detail :=
  if_neg (by omega)

namespace Language

/-- Lines are numbered on through the text, however it is put together. -/
theorem assembleLines_first_rejected {l : Language} {front : List String} {line : String}
    {d : Diagnostic} (h : ∀ line ∈ front, l.accepts line = true)
    (hd : l.assembleLine line = .error d) (hn : front.length < 10 ^ 4000) (rest : List String) :
    (l.assembleLines 1 (front ++ line :: rest)).1 =
      .error (.rejected { d with lineNum := (1 + front.length : Nat), lineText := line }) := by
  rw [assembleLines_of_rejected h hd (Decimal.fits_natCast (by omega))]

/-- Two texts with a line feed between them are assembled one after the other. An error of the first
is the error of both. An error of the second alone is about the same line, whose number grows by the
lines of the first. Without an error the statements of both follow each other. -/
theorem assemble_append_newline (l : Language) (a b : String)
    (hn : (Text.lines (a ++ "\n" ++ b)).length < 10 ^ 4000) :
    (∀ e, (l.assemble a).1 = .error e →
        ∃ d, e = .rejected d ∧ (l.assemble (a ++ "\n" ++ b)).1 = .error (.rejected d)) ∧
      (∀ ss e, (l.assemble a).1 = .ok ss → (l.assemble b).1 = .error e →
        ∃ d d', e = .rejected d ∧ (l.assemble (a ++ "\n" ++ b)).1 = .error (.rejected d') ∧
          d'.kind = d.kind ∧ d'.detail = d.detail ∧ d'.lineText = d.lineText ∧
          d'.lineNum = d.lineNum + 1 + a.toList.count '\n' ∧
          d'.message = "Line " ++ Decimal.text d'.lineNum ++ ": " ++ d'.detail) ∧
      ∀ ss ts, (l.assemble a).1 = .ok ss → (l.assemble b).1 = .ok ts →
        (l.assemble (a ++ "\n" ++ b)).1 = .ok (ss ++ ts) := by
  have hlength := Text.length_lines a
  rw [Text.lines_append, List.length_append] at hn
  simp only [assemble, Text.lines_append]
  refine ⟨fun e he => ?_, fun ss e hss he => ?_, fun ss ts hss hts => ?_⟩
  · obtain ⟨front, line, rest, d, hlines, hfront, hd⟩ := rejected_of_assembleLines he
    rw [hlines, List.length_append, List.length_cons] at hn
    have hshort : front.length < 10 ^ 4000 := by omega
    rw [hlines, assembleLines_first_rejected hfront hd hshort] at he
    cases he
    rw [hlines, List.append_assoc, List.cons_append]
    exact ⟨_, rfl, assembleLines_first_rejected hfront hd hshort _⟩
  · have ha := accepted_of_assembleLines hss
    obtain ⟨front, line, rest, d, hlines, hfront, hd⟩ := rejected_of_assembleLines he
    rw [hlines, List.length_append, List.length_cons] at hn
    have hboth : ∀ line ∈ Text.lines a ++ front, l.accepts line = true := by
      intro x hx
      exact (List.mem_append.mp hx).elim (ha x) (hfront x)
    have hshort : (Text.lines a ++ front).length < 10 ^ 4000 := by
      rw [List.length_append]
      omega
    rw [hlines, assembleLines_first_rejected hfront hd (by omega)] at he
    cases he
    rw [hlines, ← List.append_assoc]
    refine ⟨_, _, rfl, assembleLines_first_rejected hboth hd hshort rest, rfl, rfl, rfl, ?_, ?_⟩
    · rw [List.length_append, hlength]
      push_cast
      omega
    · exact Diagnostic.message_of_lineNum (Nat.succ_ne_zero _) (by rw [Nat.add_comm])
  · have ha := accepted_of_assembleLines hss
    obtain rfl := eq_statements_of_assembleLines hss
    rw [assembleLines_append ha, assembleLines_of_accepted (accepted_of_assembleLines hts),
      eq_statements_of_assembleLines hts]
    rfl

/-- The second text has an error in its second line, which is the fifth of both: the first text has
three lines, of which one is blank and one a comment. -/
theorem assemble_append_newline_fifth :
    (Text.lines ("set 1 7\n\n# note" ++ "\n" ++ "ADD\nSET 9 1")).length < 10 ^ 4000 ∧
      (∃ ss, (Machine.standardLanguage.assemble "set 1 7\n\n# note").1 = .ok ss) ∧
      (Machine.standardLanguage.assemble "ADD\nSET 9 1").1 =
        .error (.rejected ⟨.inputRange, "Input outside valid range", 2, "SET 9 1"⟩) ∧
      ∃ d, (Machine.standardLanguage.assemble ("set 1 7\n\n# note" ++ "\n" ++ "ADD\nSET 9 1")).1 =
          .error (.rejected d) ∧
        d.lineNum = 5 ∧ d.lineText = "SET 9 1" ∧
        d.message = "Line 5: Input outside valid range" := by
  have hn : (Text.lines ("set 1 7\n\n# note" ++ "\n" ++ "ADD\nSET 9 1")).length < 10 ^ 4000 :=
    Decimal.lt_ten_pow (by decide)
  obtain ⟨ss, ha⟩ : ∃ ss, (Machine.standardLanguage.assemble "set 1 7\n\n# note").1 = .ok ss :=
    ⟨_, rfl⟩
  have hb : (Machine.standardLanguage.assemble "ADD\nSET 9 1").1 =
      .error (.rejected ⟨.inputRange, "Input outside valid range", 2, "SET 9 1"⟩) := rfl
  obtain ⟨-, hsecond, -⟩ := assemble_append_newline Machine.standardLanguage _ _ hn
  obtain ⟨d, d', hd, hboth, -, hdetail, htext, hnum, hmessage⟩ := hsecond ss _ ha hb
  cases hd
  have hfive : d'.lineNum = 5 := by
    rw [hnum]
    decide
  refine ⟨hn, ⟨ss, ha⟩, hb, d', hboth, hfive, htext, ?_⟩
  rw [hmessage, hdetail, hfive]
  decide

end Language

end RegisterMachine
