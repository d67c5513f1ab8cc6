import Mathlib
import RegisterMachine.Language

/-!
# What assembly accepts and reports

* `Operand.readAll_eq_ok_iff`: operands are read token by token.
* `Language.Assembles`: the statement a line stands for, as a relation; it is what `assembleLine`
  answers (`assembleLine_eq_some_iff`).
* `Language.accepts`, `Language.statements`: the accepted lines of a text and their statements.
* `assembleLines_append`: accepted lines in front of a text put their statements in front and shift
  the line numbers. A text is accepted as a whole, or there is a first rejected line
  (`accepted_or_rejected`), about which `Language.complaint?` is what assembly reports.
-/

namespace RegisterMachine

theorem bind_eq_ok_iff {ε α β : Type} {x : Except ε α} {f : α → Except ε β} {b : β} :
    x >>= f = .ok b ↔ ∃ a, x = .ok a ∧ f a = .ok b := by
  cases x <;> simp [bind, Except.bind]

theorem bind_eq_error_iff {ε α β : Type} {x : Except ε α} {f : α → Except ε β} {e : ε} :
    x >>= f = .error e ↔ x = .error e ∨ ∃ a, x = .ok a ∧ f a = .error e := by
  cases x <;> simp [bind, Except.bind]

/-- A diagnostic that belongs to no line and has the detail of its kind. -/
def Diagnostic.Plain (d : Diagnostic) : Prop := d = .ofKind d.kind

theorem Diagnostic.plain_ofKind (kind : Kind) : (ofKind kind).Plain := rfl

theorem Diagnostic.Plain.message_eq {d : Diagnostic} (h : d.Plain) : d.message = d.detail := by
  rw [h]; rfl

theorem Diagnostic.atLine_of_fits {d : Diagnostic} {n : Int} (h : Decimal.Fits n) (line : String) :
    d.atLine n line = .ok { d with lineNum := n, lineText := line } := if_pos h

/-! ## Operands -/

theorem OperandType.read_eq_ok_iff (t : OperandType) (source : Option String) (v : Int) :
    t.read source = .ok v ↔
      ∃ token numeral, source = some token ∧
        Decimal.Numeral.scan? (Text.trim token.toList) = some numeral ∧ numeral.Fits ∧
        numeral.value = v ∧ t.min ≤ v ∧ v ≤ t.max := by
  unfold OperandType.read
  cases source with
  | none => simp
  | some token =>
    cases hscan : Decimal.Numeral.scan? (Text.trim token.toList) with
    | none => simp [hscan]
    | some numeral =>
      simp only [Option.bind_some, hscan, Option.some.injEq]
      split
      · next hin =>
        constructor
        · intro h
          cases h
          exact ⟨token, numeral, rfl, hscan, hin.1, rfl, hin.2⟩
        · rintro ⟨token', numeral', rfl, hscan', -, rfl, -⟩
          rw [hscan] at hscan'
          cases hscan'
          rfl
      · next hout =>
        constructor
        · intro h
          cases h
        · rintro ⟨token', numeral', rfl, hscan', hfits, rfl, hbounds⟩
          rw [hscan] at hscan'
          cases hscan'
          exact absurd ⟨hfits, hbounds⟩ hout

theorem OperandType.plain_of_read {t : OperandType} {source : Option String} {d : Diagnostic}
    (h : t.read source = .error d) : d.Plain := by
  unfold OperandType.read at h
  split at h
  · cases h; exact Diagnostic.plain_ofKind _
  · split at h
    · cases h
    · cases h; exact Diagnostic.plain_ofKind _

theorem Operand.readAll_eq_ok_iff (os : List Operand) (ts : List (Option String)) (vs : List Int) :
    Operand.readAll os ts = .ok vs ↔
      List.Forall₂ (fun q v => q.1.type.read q.2 = .ok v) (os.zip ts) vs := by
  induction os generalizing ts vs with
  | nil => cases vs <;> simp [Operand.readAll]
  | cons o os ih =>
    cases ts with
    | nil => cases vs <;> simp [Operand.readAll]
    | cons t ts =>
      rw [Operand.readAll, List.zip_cons_cons, bind_eq_ok_iff]
      constructor
      · rintro ⟨v, hv, h⟩
        obtain ⟨ws, hws, h⟩ := bind_eq_ok_iff.mp h
        cases h
        exact .cons hv ((ih ts ws).mp hws)
      · rintro (_ | ⟨hv, hws⟩)
        exact ⟨_, hv, bind_eq_ok_iff.mpr ⟨_, (ih ts _).mpr hws, rfl⟩⟩

theorem Operand.plain_of_readAll {os : List Operand} {ts : List (Option String)} {d : Diagnostic}
    (h : Operand.readAll os ts = .error d) : d.Plain := by
  fun_induction Operand.readAll os ts with
  | case1 o os t ts ih =>
    rcases bind_eq_error_iff.mp h with hv | ⟨v, -, h⟩
    · exact OperandType.plain_of_read hv
    · rcases bind_eq_error_iff.mp h with hvs | ⟨vs, -, h⟩
      · exact ih hvs
      · cases h
  | case2 => cases h

theorem Instruction.readOperands_eq_ok_iff (i : Instruction) (ts : List (Option String))
    (vs : List Int) :
    i.readOperands ts = .ok vs ↔ ts.length = i.operands.length ∧
      List.Forall₂ (fun q v => q.1.type.read q.2 = .ok v) (i.operands.zip ts) vs := by
  unfold Instruction.readOperands
  split
  · next h => simp [h, Operand.readAll_eq_ok_iff]
  · next h => simp [h]

theorem Instruction.plain_of_readOperands {i : Instruction} {ts : List (Option String)}
    {d : Diagnostic} (h : i.readOperands ts = .error d) : d.Plain := by
  unfold Instruction.readOperands at h
  split at h
  · exact Operand.plain_of_readAll h
  · cases h; exact Diagnostic.plain_ofKind _

namespace Language

/-! ## One line -/

theorem lookup_eq_ok {l : Language} {keyword : Option String} {i : Instruction}
    (h : l.lookup keyword = .ok i) : i ∈ l.instructions ∧ keyword = some i.keyword := by
  unfold lookup at h
  split at h
  · cases h
  · next k hk =>
    split at h
    · next j hj =>
      cases h
      have hkey : i.keyword = k := by simpa using List.find?_some hj
      exact ⟨List.mem_of_find?_eq_some hj, by rw [(Option.filter_eq_some_iff.mp hk).1, hkey]⟩
    · cases h

theorem ne_empty_of_lookup {l : Language} {k : String} {i : Instruction}
    (h : l.lookup (some k) = .ok i) : k ≠ "" := by
  rintro rfl
  have hempty : (some "").filter (fun k : String => !k.isEmpty) = none := rfl
  rw [lookup, hempty] at h
  cases h

theorem plain_of_lookup {l : Language} {keyword : Option String} {d : Diagnostic}
    (h : l.lookup keyword = .error d) : d.Plain := by
  unfold lookup at h
  split at h
  · cases h; exact Diagnostic.plain_ofKind _
  · split at h
    · cases h
    · cases h; exact Diagnostic.plain_ofKind _

/-- The statement that a line stands for. -/
inductive Assembles (l : Language) (text : Option String) : Statement → Prop where
  | comment {c : String} :
      (Line.scan l.mark (text.getD "")).keyword = none →
      (Line.scan l.mark (text.getD "")).comment = some c →
      Assembles l text ⟨none, [], text, some c⟩
  | instruction {k : String} {i : Instruction} {vs : List Int} :
      (Line.scan l.mark (text.getD "")).keyword = some k →
      l.lookup (some k) = .ok i →
      i.readOperands ((Line.scan l.mark (text.getD "")).operands.map some) = .ok vs →
      Assembles l text ⟨some i, vs, text, (Line.scan l.mark (text.getD "")).comment⟩

theorem Assembles.of_scan {l : Language} {text : Option String} {k : String}
    {operands : List String} {comment : Option String} {i : Instruction} {vs : List Int}
    (hscan : Line.scan l.mark (text.getD "") = ⟨some k, operands, comment⟩)
    (hi : l.lookup (some k) = .ok i) (hvs : i.readOperands (operands.map some) = .ok vs) :
    l.Assembles text ⟨some i, vs, text, comment⟩ := by
  have h : l.Assembles text ⟨some i, vs, text, (Line.scan l.mark (text.getD "")).comment⟩ :=
    .instruction (by rw [hscan]) hi (by rw [hscan]; exact hvs)
  rwa [hscan] at h

theorem assembleLine_eq_none_iff (l : Language) (text : Option String) :
    l.assembleLine text = .ok none ↔
      (Line.scan l.mark (text.getD "")).keyword = none ∧
        (Line.scan l.mark (text.getD "")).comment = none := by
  unfold assembleLine
  dsimp only
  split
  · next hk => split <;> simp_all
  · next k hk =>
    rw [hk]
    constructor
    · intro h
      obtain ⟨i, -, h⟩ := bind_eq_ok_iff.mp h
      obtain ⟨vs, -, h⟩ := bind_eq_ok_iff.mp h
      cases h
    · rintro ⟨h, -⟩
      cases h

theorem assembleLine_eq_some_iff (l : Language) (text : Option String) (s : Statement) :
    l.assembleLine text = .ok (some s) ↔ l.Assembles text s := by
  unfold assembleLine
  constructor
  · intro h
    dsimp only at h
    split at h
    · next hk =>
      split at h
      · cases h
      · next c hc => cases h; exact .comment hk hc
    · next k hk =>
      obtain ⟨i, hi, h⟩ := bind_eq_ok_iff.mp h
      obtain ⟨vs, hvs, h⟩ := bind_eq_ok_iff.mp h
      cases h
      exact .instruction hk hi hvs
  · rintro (⟨hk, hc⟩ | ⟨hk, hi, hvs⟩)
    · simp only [hk, hc]
    · simp only [hk]
      exact bind_eq_ok_iff.mpr ⟨_, hi, bind_eq_ok_iff.mpr ⟨_, hvs, rfl⟩⟩

theorem plain_of_assembleLine {l : Language} {text : Option String} {d : Diagnostic}
    (h : l.assembleLine text = .error d) : d.Plain := by
  unfold assembleLine at h
  dsimp only at h
  split at h
  · split at h <;> cases h
  · rcases bind_eq_error_iff.mp h with hi | ⟨i, -, h⟩
    · exact plain_of_lookup hi
    · rcases bind_eq_error_iff.mp h with hvs | ⟨vs, -, h⟩
      · exact Instruction.plain_of_readOperands hvs
      · cases h

/-! ## Accepted lines -/

/-- Is the line blank, a comment or an instruction with operands that can be read? -/
def accepts (l : Language) (line : String) : Bool := (l.assembleLine line).isOk

theorem accepts_iff {l : Language} {line : String} :
    l.accepts line = true ↔ ∃ slot, l.assembleLine line = .ok slot := by
  unfold accepts
  cases l.assembleLine line <;> simp [Except.isOk, Except.toBool]

theorem accepts_eq_false_iff {l : Language} {line : String} :
    l.accepts line = false ↔ ∃ d, l.assembleLine line = .error d := by
  unfold accepts
  cases l.assembleLine line <;> simp [Except.isOk, Except.toBool]

def statements (l : Language) (ls : List String) : List Statement :=
  ls.filterMap fun line : String => (l.assembleLine line).toOption.join

theorem statements_cons {l : Language} {line : String} {slot : Slot}
    (h : l.assembleLine line = .ok slot) (rest : List String) :
    l.statements (line :: rest) = slot.toList ++ l.statements rest := by
  cases slot <;> simp [statements, h, Except.toOption]

theorem statements_append (l : Language) (ls rest : List String) :
    l.statements (ls ++ rest) = l.statements ls ++ l.statements rest :=
  List.filterMap_append

theorem length_statements_le (l : Language) (ls : List String) :
    (l.statements ls).length ≤ ls.length :=
  List.length_filterMap_le _ _

theorem assembles_of_mem_statements {l : Language} {ls : List String} {s : Statement}
    (h : s ∈ l.statements ls) : ∃ line ∈ ls, l.Assembles (some line) s := by
  obtain ⟨line, hline, hs⟩ := List.mem_filterMap.mp h
  refine ⟨line, hline, (assembleLine_eq_some_iff l line s).mp ?_⟩
  cases hslot : l.assembleLine line with
  | error d => simp [hslot, Except.toOption] at hs
  | ok slot => simp_all [Except.toOption]

/-- Either every line of a text is accepted or one of them is the first that is not. -/
theorem accepted_or_rejected (l : Language) (ls : List String) :
    (∀ line ∈ ls, l.accepts line = true) ∨
      ∃ (front : List String) (line : String) (rest : List String) (d : Diagnostic),
        ls = front ++ line :: rest ∧
        (∀ line ∈ front, l.accepts line = true) ∧ l.assembleLine line = .error d := by
  induction ls with
  | nil => exact .inl (by simp)
  | cons line ls ih =>
    cases hline : l.accepts line with
    | false =>
      obtain ⟨d, hd⟩ := accepts_eq_false_iff.mp hline
      exact .inr ⟨[], line, ls, d, rfl, by simp, hd⟩
    | true =>
      rcases ih with hall | ⟨front, bad, rest, d, rfl, hfront, hd⟩
      · exact .inl (by simpa [hline] using hall)
      · exact .inr ⟨line :: front, bad, rest, d, rfl, by simpa [hline] using hfront, hd⟩

/-! ## Whole texts -/

/-- Accepted lines put their statements in front of those of the rest and shift its line numbers. -/
theorem assembleLines_append {l : Language} {front : List String}
    (h : ∀ line ∈ front, l.accepts line = true) (n : Nat) (rest : List String) :
    l.assembleLines n (front ++ rest) =
      ((l.assembleLines (n + front.length) rest).1.map (l.statements front ++ ·),
        (l.assembleLines (n + front.length) rest).2) := by
  induction front generalizing n with
  | nil =>
    have hmap (r : Except Failure (List Statement)) : r.map (l.statements [] ++ ·) = r := by
      cases r <;> rfl
    simp [hmap]
  | cons line front ih =>
    obtain ⟨slot, hslot⟩ := accepts_iff.mp (h line List.mem_cons_self)
    have hfront := ih (fun f hf => h f (List.mem_cons_of_mem _ hf)) (n + 1)
    rw [Nat.add_right_comm, Nat.add_assoc] at hfront
    have hmap (r : Except Failure (List Statement)) :
        (r.map (l.statements front ++ ·)).map (slot.toList ++ ·) =
          r.map (l.statements (line :: front) ++ ·) := by
      rw [statements_cons hslot]
      cases r <;> simp [Except.map]
    simp only [List.cons_append, assembleLines, hslot, hfront, hmap, List.length_cons]

theorem assembleLines_of_accepted {l : Language} {ls : List String}
    (h : ∀ line ∈ ls, l.accepts line = true) (n : Nat) :
    l.assembleLines n ls = (.ok (l.statements ls), []) := by
  have happend := assembleLines_append h n []
  rw [List.append_nil] at happend
  rw [happend]
  simp [assembleLines, Except.map]

theorem accepted_of_assembleLines {l : Language} {n : Nat} {ls : List String}
    {ss : List Statement} (h : (l.assembleLines n ls).1 = .ok ss) :
    ∀ line ∈ ls, l.accepts line = true := by
  rcases l.accepted_or_rejected ls with hall | ⟨front, line, rest, d, rfl, hfront, hd⟩
  · exact hall
  · rw [assembleLines_append hfront] at h
    simp only [assembleLines, hd] at h
    split at h <;> cases h

theorem eq_statements_of_assembleLines {l : Language} {n : Nat} {ls : List String}
    {ss : List Statement} (h : (l.assembleLines n ls).1 = .ok ss) : ss = l.statements ls := by
  rw [assembleLines_of_accepted (accepted_of_assembleLines h)] at h
  cases h
  rfl

theorem rejected_of_assembleLines {l : Language} {n : Nat} {ls : List String} {e : Failure}
    (h : (l.assembleLines n ls).1 = .error e) :
    ∃ (front : List String) (line : String) (rest : List String) (d : Diagnostic),
      ls = front ++ line :: rest ∧ (∀ line ∈ front, l.accepts line = true) ∧
        l.assembleLine line = .error d := by
  rcases l.accepted_or_rejected ls with hall | hrejected
  · rw [assembleLines_of_accepted hall] at h
    cases h
  · exact hrejected

/-- Apart from a rejected line, only a line number that is too long ends assembly. -/
theorem assembleLines_eq_error {l : Language} {n : Nat} {ls : List String} {e : Failure}
    (h : (l.assembleLines n ls).1 = .error e) :
    (∃ d, e = .rejected d) ∨ e = .fault .tooManyDigits := by
  obtain ⟨front, line, rest, d, rfl, hfront, hd⟩ := rejected_of_assembleLines h
  rw [assembleLines_append hfront] at h
  simp only [assembleLines, hd, Diagnostic.atLine] at h
  split at h
  · cases h
    exact .inl ⟨_, rfl⟩
  · next f hline =>
    split at hline <;> cases hline
    cases h
    exact .inr rfl

theorem assembleLines_of_rejected {l : Language} {front : List String} {line : String}
    {d : Diagnostic} (h : ∀ line ∈ front, l.accepts line = true)
    (hd : l.assembleLine line = .error d) {n : Nat} (hfits : Decimal.Fits (n + front.length : Nat))
    (rest : List String) :
    l.assembleLines n (front ++ line :: rest) =
      (.error (.rejected { d with lineNum := (n + front.length : Nat), lineText := line }),
        [.assemblyFailed (n + front.length) d]) := by
  rw [assembleLines_append h]
  simp only [assembleLines, hd, Diagnostic.atLine_of_fits hfits, Except.map]

/-! ## The first rejected line -/

/-- What assembly reports about the first rejected line; lines are numbered from 1. -/
def complaint? (l : Language) (ls : List String) : Option Diagnostic :=
  match (l.assembleLines 1 ls).1 with
  | .error (.rejected d) => some d
  | _ => none

theorem complaint?_of_accepted {l : Language} {ls : List String}
    (h : ∀ line ∈ ls, l.accepts line = true) : l.complaint? ls = none := by
  rw [complaint?, assembleLines_of_accepted h]

section
variable {l : Language} {front : List String} {line : String} {d : Diagnostic}
  (h : ∀ line ∈ front, l.accepts line = true) (hd : l.assembleLine line = .error d)
include h hd

theorem complaint?_of_rejected (hfits : Decimal.Fits (1 + front.length : Nat))
    (rest : List String) :
    l.complaint? (front ++ line :: rest) =
      some { d with lineNum := (1 + front.length : Nat), lineText := line } := by
  rw [complaint?, assembleLines_of_rejected h hd hfits]

theorem takeWhile_accepts_append (rest : List String) :
    (front ++ line :: rest).takeWhile l.accepts = front := by
  have hline : l.accepts line = false := accepts_eq_false_iff.mpr ⟨d, hd⟩
  rw [List.takeWhile_append_of_pos h, List.takeWhile_cons, hline, if_neg Bool.false_ne_true,
    List.append_nil]

end

end Language

end RegisterMachine
