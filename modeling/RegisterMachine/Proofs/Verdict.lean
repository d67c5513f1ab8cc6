import RegisterMachine.Proofs.Assembly
import RegisterMachine.Proofs.Scanning

/-!
# The verdict on a line

`Verdict` lists what can become of a line, in the order in which it is checked: it is blank, it is a
comment, its keyword is unknown, it has the wrong number of operands, its leftmost bad operand is
rejected, or it is a statement. `assembleLine_eq_iff_verdict`: assembly answers with the verdict, so
that every line has exactly one.
-/

namespace RegisterMachine

/-! ## Upper case -/

theorem Text.upperChar_ne_nil (c : Char) : upperChar c ≠ [] := by
  have hexpansions : ∀ e ∈ caseExpansions, e.2 ≠ [] := by decide
  unfold upperChar
  dsimp only
  split
  · exact List.cons_ne_nil _ _
  · split
    · next codes hfind =>
      simpa using hexpansions _ (List.mem_of_find?_eq_some hfind)
    · split <;> exact List.cons_ne_nil _ _

theorem Text.upper_ne_empty {s : String} (h : s ≠ "") : upper s ≠ "" := by
  obtain ⟨c, cs, hcs⟩ := List.exists_cons_of_ne_nil (mt String.toList_eq_nil_iff.mp h)
  rw [upper, hcs, ne_eq, String.ofList_eq_empty_iff, List.flatMap_cons, List.append_eq_nil_iff]
  exact fun hnil => upperChar_ne_nil c hnil.1

/-! ## Operands -/

namespace Operand

/-- The values of the operands, each read from its token. -/
def Values (os : List Operand) (ts : List String) (vs : List Int) : Prop :=
  List.Forall₂ (fun q v => q.1.type.read (some q.2) = .ok v) (os.zip ts) vs

/-- The leftmost token that its operand rejects, and the kind of the complaint about it. -/
def RejectedBy (os : List Operand) (ts : List String) (kind : Diagnostic.Kind) : Prop :=
  ∃ osGood o osRest tsGood t tsRest vs, os = osGood ++ o :: osRest ∧ ts = tsGood ++ t :: tsRest ∧
    tsGood.length = osGood.length ∧ Values osGood tsGood vs ∧
    o.type.read (some t) = .error (.ofKind kind)

theorem kind_of_read {t : OperandType} {source : Option String} {d : Diagnostic}
    (h : t.read source = .error d) :
    ∃ kind, (kind = .inputType ∨ kind = .inputRange) ∧ d = .ofKind kind := by
  unfold OperandType.read at h
  split at h
  · cases h
    exact ⟨_, .inl rfl, rfl⟩
  · split at h
    · cases h
    · cases h
      exact ⟨_, .inr rfl, rfl⟩

theorem readAll_of_values {os : List Operand} {ts : List String} {vs : List Int}
    (h : Values os ts vs) : readAll os (ts.map some) = .ok vs := by
  rw [readAll_eq_ok_iff, List.zip_map_right, List.forall₂_map_left_iff]
  exact h

theorem readAll_of_rejectedBy {os : List Operand} {ts : List String} {kind : Diagnostic.Kind}
    (h : RejectedBy os ts kind) : readAll os (ts.map some) = .error (.ofKind kind) := by
  obtain ⟨osGood, o, osRest, tsGood, t, tsRest, vs, rfl, rfl, hlen, hgood, hbad⟩ := h
  induction osGood generalizing tsGood vs with
  | nil =>
    obtain rfl := List.length_eq_zero_iff.mp hlen
    exact bind_eq_error_iff.mpr (.inl hbad)
  | cons p osGood ih =>
    obtain ⟨u, tsGood, rfl⟩ := List.exists_cons_of_length_eq_add_one hlen
    obtain ⟨v, vs, hv, hrest, rfl⟩ := List.forall₂_cons_left_iff.mp hgood
    exact bind_eq_error_iff.mpr (.inr ⟨v, hv, bind_eq_error_iff.mpr
      (.inl (ih tsGood vs (Nat.succ.inj hlen) hrest))⟩)

theorem RejectedBy.cons {o : Operand} {os : List Operand} {t : String} {ts : List String} {v : Int}
    {kind : Diagnostic.Kind} (hv : o.type.read (some t) = .ok v) (h : RejectedBy os ts kind) :
    RejectedBy (o :: os) (t :: ts) kind := by
  obtain ⟨osGood, p, osRest, tsGood, u, tsRest, vs, rfl, rfl, hlen, hgood, hbad⟩ := h
  exact ⟨o :: osGood, p, osRest, t :: tsGood, u, tsRest, v :: vs, rfl, rfl, by simp [hlen],
    .cons hv hgood, hbad⟩

/-- Either all operands can be read or one of them is the leftmost that cannot. -/
theorem values_or_rejectedBy {os : List Operand} {ts : List String} (hlen : ts.length = os.length) :
    (∃ vs, Values os ts vs) ∨
      ∃ kind, (kind = .inputType ∨ kind = .inputRange) ∧ RejectedBy os ts kind := by
  induction os generalizing ts with
  | nil => exact .inl ⟨[], .nil⟩
  | cons o os ih =>
    obtain ⟨t, ts, rfl⟩ := List.exists_cons_of_length_eq_add_one hlen
    cases hv : o.type.read (some t) with
    | error d =>
      obtain ⟨kind, hkind, rfl⟩ := kind_of_read hv
      exact .inr ⟨kind, hkind, [], o, os, [], t, ts, [], rfl, rfl, rfl, .nil, hv⟩
    | ok v =>
      rcases ih (Nat.succ.inj hlen) with ⟨vs, hvs⟩ | ⟨kind, hkind, hrejected⟩
      · exact .inl ⟨v :: vs, .cons hv hvs⟩
      · exact .inr ⟨kind, hkind, hrejected.cons hv⟩

end Operand

/-! ## Lines -/

namespace Language

def FirstWith (keyword : String) (instructions : List Instruction) (i : Instruction) : Prop :=
  ∃ before after, instructions = before ++ i :: after ∧ i.keyword = keyword ∧
    ∀ j ∈ before, j.keyword ≠ keyword

/-- What becomes of a line where `#` starts a comment. -/
inductive Verdict (instructions : List Instruction) (line : String) :
    Except Diagnostic Slot → Prop where
  | blank : '#' ∉ line.toList → Text.Blanks line.toList → Verdict instructions line (.ok none)
  | comment {front back : List Char} :
      line.toList = front ++ '#' :: back → '#' ∉ front → Text.Blanks front →
      Verdict instructions line
        (.ok (some ⟨none, [], some line, some (String.ofList (Text.trim back))⟩))
  | unknown {word : String} {ts : List String} :
      Line.tokens '#' line = word :: ts → (∀ i ∈ instructions, i.keyword ≠ Text.upper word) →
      Verdict instructions line (.error (.ofKind .unknownInstruction))
  | format {word : String} {ts : List String} {i : Instruction} :
      Line.tokens '#' line = word :: ts → FirstWith (Text.upper word) instructions i →
      ts.length ≠ i.operands.length → Verdict instructions line (.error (.ofKind .format))
  | operand {word : String} {ts : List String} {i : Instruction} {kind : Diagnostic.Kind} :
      Line.tokens '#' line = word :: ts → FirstWith (Text.upper word) instructions i →
      ts.length = i.operands.length → kind = .inputType ∨ kind = .inputRange →
      Operand.RejectedBy i.operands ts kind →
      Verdict instructions line (.error (.ofKind kind))
  | statement {word : String} {ts : List String} {i : Instruction} {vs : List Int} :
      Line.tokens '#' line = word :: ts → FirstWith (Text.upper word) instructions i →
      ts.length = i.operands.length → Operand.Values i.operands ts vs →
      Verdict instructions line (.ok (some ⟨some i, vs, some line, Line.remark '#' line⟩))

section
variable {instructions : List Instruction} {line word : String} {ts : List String}

theorem lookup_of_unknown {k : String} (h : ∀ i ∈ instructions, i.keyword ≠ k) :
    lookup ⟨instructions, commentMark⟩ (some k) = .error (.ofKind .unknownInstruction) := by
  have hfind : instructions.find? (·.keyword == k) = none := by simpa using h
  unfold lookup
  split
  · rfl
  · next k' hk' =>
    obtain rfl := Option.some.inj (Option.filter_eq_some_iff.mp hk').1
    rw [hfind]

theorem firstWith_iff_find? {k : String} {i : Instruction} :
    FirstWith k instructions i ↔ instructions.find? (·.keyword == k) = some i := by
  rw [List.find?_eq_some_iff_append]
  constructor
  · rintro ⟨before, after, h, hi, hbefore⟩
    exact ⟨by simpa using hi, before, after, h, by simpa using hbefore⟩
  · rintro ⟨hi, before, after, h, hbefore⟩
    exact ⟨before, after, h, by simpa using hi, by simpa using hbefore⟩

theorem lookup_eq_ok_iff_firstWith {k : String} {i : Instruction} (mark : String) (hk : k ≠ "") :
    lookup ⟨instructions, mark⟩ (some k) = .ok i ↔ FirstWith k instructions i := by
  have hsome : (some k).filter (!·.isEmpty) = some k := by simpa [Option.filter] using hk
  rw [lookup, hsome, firstWith_iff_find?]
  dsimp only
  cases instructions.find? (·.keyword == k) <;> simp

/-- Either no instruction has the keyword or one of them is the first with it. -/
theorem unknown_or_firstWith (instructions : List Instruction) (k : String) :
    (∀ i ∈ instructions, i.keyword ≠ k) ∨ ∃ i, FirstWith k instructions i := by
  cases hfind : instructions.find? (·.keyword == k) with
  | none => exact .inl (by simpa using hfind)
  | some i => exact .inr ⟨i, firstWith_iff_find?.mpr hfind⟩

theorem scan_commentMark (line : String) :
    Line.scan commentMark line = ⟨(Line.tokens '#' line).head?.map Text.upper,
      (Line.tokens '#' line).tail, Line.remark '#' line⟩ :=
  Line.scan_eq rfl line

/-- Without a word in front of it, a comment is all there is. -/
theorem assembleLine_of_blanks {front : List Char} {back : Option (List Char)}
    (hcut : Line.Cut '#' line.toList front back) (hblank : Text.Blanks front) :
    assembleLine ⟨instructions, commentMark⟩ line =
      .ok (back.map fun cs => ⟨none, [], some line, some (String.ofList (Text.trim cs))⟩) := by
  have htokens : Line.tokens '#' line = [] := by
    rw [Line.tokens_of_cut hcut, (Text.words_eq_nil_iff _).mpr hblank, List.map_nil]
  unfold assembleLine
  simp only [Option.getD_some, scan_commentMark, htokens, Line.remark_of_cut hcut, List.head?_nil,
    Option.map_none]
  cases back <;> rfl

theorem assembleLine_of_tokens (h : Line.tokens '#' line = word :: ts) :
    assembleLine ⟨instructions, commentMark⟩ line = (do
      let i ← lookup ⟨instructions, commentMark⟩ (some (Text.upper word))
      let values ← i.readOperands (ts.map some)
      return some ⟨some i, values, some line, Line.remark '#' line⟩) := by
  unfold assembleLine
  simp only [Option.getD_some, scan_commentMark, h, List.head?_cons, Option.map_some,
    List.tail_cons]

/-- The first token of a line and its instruction decide up to the operands. -/
theorem assembleLine_of_firstWith {i : Instruction} (h : Line.tokens '#' line = word :: ts)
    (hi : FirstWith (Text.upper word) instructions i) :
    assembleLine ⟨instructions, commentMark⟩ line = (do
      let values ← i.readOperands (ts.map some)
      return some ⟨some i, values, some line, Line.remark '#' line⟩) := by
  have hword : word ≠ "" := Line.ne_empty_of_mem_tokens (h ▸ List.mem_cons_self)
  rw [assembleLine_of_tokens h, (lookup_eq_ok_iff_firstWith _ (Text.upper_ne_empty hword)).mpr hi]
  rfl

theorem assembleLine_of_verdict {r : Except Diagnostic Slot} (h : Verdict instructions line r) :
    assembleLine ⟨instructions, commentMark⟩ line = r := by
  cases h with
  | blank hmark hblank => exact assembleLine_of_blanks (.whole hmark) hblank
  | comment htext hmark hblank => exact assembleLine_of_blanks (.marked htext hmark) hblank
  | unknown htokens hunknown =>
    rw [assembleLine_of_tokens htokens, lookup_of_unknown hunknown]
    rfl
  | @format _ ts i htokens hi hlen =>
    have hread : i.readOperands (ts.map some) = .error (.ofKind .format) :=
      if_neg (by rwa [List.length_map])
    rw [assembleLine_of_firstWith htokens hi, hread]
    rfl
  | @operand _ ts i kind htokens hi hlen _ hrejected =>
    have hread : i.readOperands (ts.map some) = .error (.ofKind kind) := by
      rw [Instruction.readOperands, if_pos (by rwa [List.length_map]),
        Operand.readAll_of_rejectedBy hrejected]
    rw [assembleLine_of_firstWith htokens hi, hread]
    rfl
  | @statement _ ts i vs htokens hi hlen hvs =>
    have hread : i.readOperands (ts.map some) = .ok vs := by
      rw [Instruction.readOperands, if_pos (by rwa [List.length_map]),
        Operand.readAll_of_values hvs]
    rw [assembleLine_of_firstWith htokens hi, hread]
    rfl

theorem exists_verdict (instructions : List Instruction) (line : String) :
    ∃ r, Verdict instructions line r := by
  cases htokens : Line.tokens '#' line with
  | nil =>
    obtain ⟨front, back, hcut⟩ := Line.exists_cut '#' line.toList
    have hblank : Text.Blanks front := by
      rw [Line.tokens_of_cut hcut, List.map_eq_nil_iff, Text.words_eq_nil_iff] at htokens
      exact htokens
    cases hcut with
    | whole hmark => exact ⟨_, .blank hmark hblank⟩
    | marked htext hmark => exact ⟨_, .comment htext hmark hblank⟩
  | cons word ts =>
    rcases unknown_or_firstWith instructions (Text.upper word) with hunknown | ⟨i, hi⟩
    · exact ⟨_, .unknown htokens hunknown⟩
    · by_cases hlen : ts.length = i.operands.length
      · rcases Operand.values_or_rejectedBy hlen with ⟨vs, hvs⟩ | ⟨kind, hkind, hrejected⟩
        · exact ⟨_, .statement htokens hi hlen hvs⟩
        · exact ⟨_, .operand htokens hi hlen hkind hrejected⟩
      · exact ⟨_, .format htokens hi hlen⟩

end

/-- Assembly answers with the verdict on a line, and there is no other. -/
theorem assembleLine_eq_iff_verdict (instructions : List Instruction) (line : String)
    (r : Except Diagnostic Slot) :
    assembleLine ⟨instructions, commentMark⟩ line = r ↔ Verdict instructions line r := by
  refine ⟨?_, assembleLine_of_verdict⟩
  rintro rfl
  obtain ⟨r, hr⟩ := exists_verdict instructions line
  rw [assembleLine_of_verdict hr]
  exact hr

end Language

end RegisterMachine
