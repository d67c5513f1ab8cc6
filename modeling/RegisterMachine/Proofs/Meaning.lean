import RegisterMachine.Proofs.Program

/-!
# What a line means

The meaning of a line is a call: an instruction with the values of its operands. Comments, blanks
and the case of the keyword are not part of it (`call_of_sameWords`), so that two texts whose lines
have the same words are programs with the same calls, the same registers and the same error
(`runText_of_sameWords`). Their machines still differ in the stored comments and hence in the
program counter.

* `Statement.call?`, `Machine.calls`: the call of a statement, and those of a stored program.
* `Line.SameWords`: lines that differ in nothing but comment, spacing and case of the keyword.
* `registers_foldl_apply`: the registers after statements are a function of their calls.
-/

namespace RegisterMachine

open Machine (standardLanguage)

/-! ## Calls -/

abbrev Call : Type := Instruction × List Int

/-- What a statement does; a comment does nothing. -/
def Statement.call? (s : Statement) : Option Call :=
  s.instruction.map fun i => (i, s.operands)

def Machine.calls (m : Machine) : List Call :=
  m.statements.filterMap fun slot => slot.bind Statement.call?

def Language.call (l : Language) (line : String) : Except Diagnostic (Option Call) :=
  (l.assembleLine line).map fun slot => slot.bind Statement.call?

/-- The same keyword and the same operands. -/
def Line.SameWords (mark a b : String) : Prop :=
  (scan mark a).keyword = (scan mark b).keyword ∧ (scan mark a).operands = (scan mark b).operands

namespace Language

variable {l : Language}

/-- The words of a line decide its call, or why it has none. -/
theorem call_eq (l : Language) (line : String) :
    l.call line =
      match (Line.scan l.mark line).keyword with
      | none => .ok none
      | some k => do
        let i ← l.lookup (some k)
        let values ← i.readOperands ((Line.scan l.mark line).operands.map some)
        return some (i, values) := by
  unfold call assembleLine
  rw [Option.getD_some]
  obtain ⟨keyword, operands, comment⟩ := Line.scan l.mark line
  cases keyword with
  | none => cases comment <;> rfl
  | some k =>
    dsimp only
    cases l.lookup (some k) with
    | error d => rfl
    | ok i =>
      dsimp only [bind, Except.bind]
      cases i.readOperands (operands.map some) <;> rfl

theorem call_of_sameWords {a b : String} (h : Line.SameWords l.mark a b) :
    l.call a = l.call b := by
  rw [call_eq, call_eq, h.1, h.2]

theorem call_eq_error_iff {line : String} {d : Diagnostic} :
    l.call line = .error d ↔ l.assembleLine line = .error d := by
  unfold call
  cases l.assembleLine line <;> simp [Except.map]

theorem accepts_iff_call {line : String} :
    l.accepts line = true ↔ ∃ c, l.call line = .ok c := by
  rw [accepts_iff, call]
  cases l.assembleLine line <;> simp [Except.map]

theorem calls_cons {line : String} {c : Option Call} (h : l.call line = .ok c)
    (ls : List String) :
    (l.statements (line :: ls)).filterMap Statement.call? =
      c.toList ++ (l.statements ls).filterMap Statement.call? := by
  unfold call at h
  cases hslot : l.assembleLine line with
  | error d => rw [hslot] at h; cases h
  | ok slot =>
    rw [hslot] at h
    cases h
    rw [statements_cons hslot, List.filterMap_append]
    cases slot <;> rfl

variable {as bs : List String} (h : List.Forall₂ (Line.SameWords l.mark) as bs)
include h

theorem accepted_of_sameWords (hall : ∀ a ∈ as, l.accepts a = true) :
    ∀ b ∈ bs, l.accepts b = true := by
  induction h with
  | nil => simp
  | cons hab _ ih =>
    intro b hb
    rcases List.mem_cons.mp hb with rfl | hb
    · rw [accepts_iff_call, ← call_of_sameWords hab, ← accepts_iff_call]
      exact hall _ List.mem_cons_self
    · exact ih (fun a ha => hall a (List.mem_cons_of_mem _ ha)) b hb

theorem calls_of_sameWords (hall : ∀ a ∈ as, l.accepts a = true) :
    (l.statements as).filterMap Statement.call? =
      (l.statements bs).filterMap Statement.call? := by
  induction h with
  | nil => rfl
  | cons hab _ ih =>
    obtain ⟨c, hc⟩ := accepts_iff_call.mp (hall _ List.mem_cons_self)
    have hc' := (call_of_sameWords hab).symm.trans hc
    rw [calls_cons hc, calls_cons hc', ih fun a ha => hall a (List.mem_cons_of_mem _ ha)]

/-- The first rejected lines of texts with the same words stand at the same place. -/
theorem rejected_of_sameWords {front rest : List String} {line : String} {d : Diagnostic}
    (has : as = front ++ line :: rest) (hd : l.assembleLine line = .error d) :
    ∃ (front' : List String) (line' : String) (rest' : List String),
      bs = front' ++ line' :: rest' ∧ List.Forall₂ (Line.SameWords l.mark) front front' ∧
        l.assembleLine line' = .error d := by
  subst has
  have hfront := List.forall₂_take_append bs front (line :: rest) (List.Forall₂.flip h)
  have hback := List.forall₂_drop_append bs front (line :: rest) (List.Forall₂.flip h)
  obtain ⟨line', rest', hline, -, hdrop⟩ := List.forall₂_cons_right_iff.mp hback
  refine ⟨bs.take front.length, line', rest', ?_, List.Forall₂.flip hfront, ?_⟩
  · rw [← hdrop, List.take_append_drop]
  · rw [← call_eq_error_iff, ← call_of_sameWords (l := l) hline, call_eq_error_iff]
    exact hd

end Language

/-! ## Registers -/

def Call.apply (registers : List Int) (c : Call) : List Int :=
  Statement.apply ⟨some c.1, c.2, none, none⟩ registers

theorem Statement.apply_eq_call (s : Statement) (registers : List Int) :
    s.apply registers = s.call?.toList.foldl Call.apply registers := by
  obtain ⟨instruction, operands, text, comment⟩ := s
  cases instruction <;> rfl

theorem Statement.registers_foldl_apply (ss : List Statement) (registers : List Int) :
    ss.foldl (fun rs s => s.apply rs) registers =
      (ss.filterMap call?).foldl Call.apply registers := by
  induction ss generalizing registers with
  | nil => rfl
  | cons s ss ih =>
    rw [List.foldl_cons, ih, s.apply_eq_call, List.filterMap_cons]
    cases s.call? <;> rfl

/-! ## Programs -/

namespace Program

theorem calls_foldl_note (source : String) (trace : Bool) (ls : List String) :
    ((standardLanguage.statements ls).foldl note (ofText source trace)).machine.calls =
      (standardLanguage.statements ls).filterMap Statement.call? := by
  have hempty : (ofText source trace).machine.statements = [] := rfl
  rw [machine_foldl_note, Machine.calls, Machine.statements_foldl_advance, hempty, List.nil_append,
    List.filterMap_map]
  rfl

theorem registers_foldl_note (source : String) (trace : Bool) (ls : List String) :
    ((standardLanguage.statements ls).foldl note (ofText source trace)).machine.registers =
      ((standardLanguage.statements ls).filterMap Statement.call?).foldl Call.apply [0, 0] := by
  rw [machine_foldl_note, Machine.registers_foldl_advance, Statement.registers_foldl_apply]
  rfl

/-- Programs whose lines differ in nothing but comments, spacing and case of the keyword: same
registers, same calls, and the same error at the same place or none. -/
theorem runText_of_sameWords (a b : String) (traceA traceB : Bool)
    (hn : (Text.lines a).length < 10 ^ 4000)
    (h : List.Forall₂ (Line.SameWords commentMark) (Text.lines a) (Text.lines b)) :
    ∃ p q logA logB, runText a traceA = ⟨p, logA, .ok ()⟩ ∧ runText b traceB = ⟨q, logB, .ok ()⟩ ∧
      p.machine.registers = q.machine.registers ∧ p.halted = q.halted ∧
      (p.error.map fun d => (d.kind, d.detail, d.lineNum)) =
        (q.error.map fun d => (d.kind, d.detail, d.lineNum)) ∧
      p.machine.calls = q.machine.calls := by
  have hn' : (Text.lines b).length < 10 ^ 4000 := by rwa [← h.length_eq]
  rcases standardLanguage.accepted_or_rejected (Text.lines a) with
    hall | ⟨front, line, rest, d, ha, hfront, hd⟩
  · have hall' := Language.accepted_of_sameWords (l := standardLanguage) h hall
    have hcalls := Language.calls_of_sameWords (l := standardLanguage) h hall
    obtain ⟨logA, hrun⟩ := runText_of_accepted traceA hall hn
    obtain ⟨logB, hrun'⟩ := runText_of_accepted traceB hall' hn'
    refine ⟨_, _, logA, logB, hrun, hrun', ?_, ?_, ?_, ?_⟩
    · simp only [say, registers_foldl_note, hcalls]
    · simp only [say, halted, error_foldl_note, ofText]
    · simp only [say, error_foldl_note, ofText]
    · simp only [say, calls_foldl_note, hcalls]
  · obtain ⟨front', line', rest', hb, hsame, hd'⟩ :=
      Language.rejected_of_sameWords (l := standardLanguage) h ha hd
    have hfront' := Language.accepted_of_sameWords hsame hfront
    have hcalls := Language.calls_of_sameWords hsame hfront
    obtain ⟨logA, hrun⟩ := runText_of_rejected traceA ha hfront hd hn
    obtain ⟨logB, hrun'⟩ := runText_of_rejected traceB hb hfront' hd' hn'
    refine ⟨_, _, logA, logB, hrun, hrun', ?_, rfl, ?_, ?_⟩
    · simp only [say, registers_foldl_note, hcalls]
    · simp only [say, Option.map_some, hsame.length_eq]
    · simp only [say, calls_foldl_note, hcalls]

/-- A comment becomes a blank line and a blank line a comment; both texts end at line four. -/
theorem runText_of_sameWords_spaced :
    (Text.lines "set 1 7 # seven\n# two\nadd\nJUMP").length < 10 ^ 4000 ∧
      List.Forall₂ (Line.SameWords commentMark)
        (Text.lines "set 1 7 # seven\n# two\nadd\nJUMP")
        (Text.lines "SET\t1  7\n\n ADD # sum\njump # where") ∧
      ∃ p q logA logB, runText "set 1 7 # seven\n# two\nadd\nJUMP" false = ⟨p, logA, .ok ()⟩ ∧
        runText "SET\t1  7\n\n ADD # sum\njump # where" true = ⟨q, logB, .ok ()⟩ ∧
        p.machine.registers = q.machine.registers ∧ p.machine.calls = q.machine.calls ∧
        p.machine.count = 3 ∧ q.machine.count = 2 ∧
        (p.error.map fun d => (d.kind, d.detail, d.lineNum)) =
          some (.unknownInstruction, "Unknown instruction", 4) ∧
        (q.error.map fun d => (d.kind, d.detail, d.lineNum)) =
          some (.unknownInstruction, "Unknown instruction", 4) := by
  have hn : (Text.lines "set 1 7 # seven\n# two\nadd\nJUMP").length < 10 ^ 4000 :=
    Decimal.lt_ten_pow (by decide)
  have hsame : List.Forall₂ (Line.SameWords commentMark)
      (Text.lines "set 1 7 # seven\n# two\nadd\nJUMP")
      (Text.lines "SET\t1  7\n\n ADD # sum\njump # where") :=
    .cons ⟨by decide, by decide⟩ (.cons ⟨by decide, by decide⟩ (.cons ⟨by decide, by decide⟩
      (.cons ⟨by decide, by decide⟩ .nil)))
  obtain ⟨p, q, logA, logB, hp, hq, hregisters, -, herror, hcalls⟩ :=
    runText_of_sameWords _ _ false true hn hsame
  have hp' : (p.machine.count, p.error.map fun d => (d.kind, d.detail, d.lineNum)) =
      (3, some (.unknownInstruction, "Unknown instruction", 4)) := by
    rw [← show (runText "set 1 7 # seven\n# two\nadd\nJUMP" false).state = p by rw [hp]]
    decide +kernel
  have hq' : q.machine.count = 2 := by
    rw [← show (runText "SET\t1  7\n\n ADD # sum\njump # where" true).state = q by rw [hq]]
    decide +kernel
  obtain ⟨hcount, hkind⟩ := Prod.mk.inj hp'
  exact ⟨hn, hsame, p, q, logA, logB, hp, hq, hregisters, hcalls, hcount, hq', hkind,
    herror.symm.trans hkind⟩

end Program

end RegisterMachine
