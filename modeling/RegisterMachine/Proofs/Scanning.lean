import RegisterMachine.Proofs.Line

/-!
# Lines taken apart

What the parts of a line are, said without the functions that find them.

* `Text.Trims`: a text without the blanks around it; it is `trim` (`trims_iff`).
* `Text.Spaced`: a text as words with blanks around them. Every text is that of exactly one list of
  words (`spaced_iff`).
* `scan_decomposes`: the comment of a line is the trimmed text behind the first mark, and keyword
  and operands are the words in front of it.
-/

namespace RegisterMachine

namespace Text

def Blanks (cs : List Char) : Prop := ∀ c ∈ cs, isBlank c = true

/-- Neither empty nor with a blank in it. -/
def Solid (cs : List Char) : Prop := cs ≠ [] ∧ ∀ c ∈ cs, isBlank c = false

theorem Blanks.cons {c : Char} {cs : List Char} (hc : isBlank c = true) (hcs : Blanks cs) :
    Blanks (c :: cs) := by
  simpa [Blanks, hc] using hcs

theorem startsWord_append_of_solid {w : List Char} (hw : Solid w) (tail : List Char) :
    startsWord (w ++ tail) = true := by
  obtain ⟨c, cs, rfl⟩ := List.exists_cons_of_ne_nil hw.1
  simp [startsWord, hw.2 c List.mem_cons_self]

/-! ## Trimming -/

/-- The text `inner` is `cs` without the blanks at either end. -/
def Trims (cs inner : List Char) : Prop :=
  ∃ lead trail, cs = lead ++ inner ++ trail ∧ Blanks lead ∧ Blanks trail ∧
    (∀ c ∈ inner.head?, isBlank c = false) ∧ ∀ c ∈ inner.getLast?, isBlank c = false

theorem trimStart_append {lead : List Char} (hlead : Blanks lead) {inner : List Char}
    (hinner : ∀ c ∈ inner.head?, isBlank c = false) : trimStart (lead ++ inner) = inner := by
  rw [trimStart, List.dropWhile_append_of_pos hlead]
  cases inner with
  | nil => rfl
  | cons c cs => rw [List.dropWhile_cons_of_neg (by simp [hinner c rfl])]

theorem trimEnd_append {trail : List Char} (htrail : Blanks trail) {inner : List Char}
    (hinner : ∀ c ∈ inner.getLast?, isBlank c = false) : trimEnd (inner ++ trail) = inner := by
  have hrev : Blanks trail.reverse := fun c hc => htrail c (List.mem_reverse.mp hc)
  have hhead : ∀ c ∈ inner.reverse.head?, isBlank c = false := by rwa [List.head?_reverse]
  have hstart : (trail.reverse ++ inner.reverse).dropWhile isBlank = inner.reverse :=
    trimStart_append hrev hhead
  rw [trimEnd, List.reverse_append, hstart, List.reverse_reverse]

theorem trim_of_trims {cs inner : List Char} (h : Trims cs inner) : trim cs = inner := by
  obtain ⟨lead, trail, rfl, hlead, htrail, hhead, hlast⟩ := h
  cases inner with
  | nil =>
    have hall : Blanks (lead ++ trail) := fun c hc =>
      (List.mem_append.mp hc).elim (hlead c) (htrail c)
    have hstart : trimStart (lead ++ trail) = [] := List.dropWhile_eq_nil_iff.mpr hall
    rw [List.append_nil, trim, hstart]
    rfl
  | cons c cs =>
    rw [trim, List.append_assoc, trimStart_append hlead (by simpa using hhead),
      trimEnd_append htrail hlast]

theorem head?_trim (cs : List Char) : ∀ c ∈ (trim cs).head?, isBlank c = false := by
  intro c hc
  have hfront : trim cs <+: trimStart cs := List.rdropWhile_prefix _ _
  obtain ⟨rest, hrest⟩ := List.head?_eq_some_iff.mp hc
  obtain ⟨tail, htail⟩ := hfront
  have hhead : (cs.dropWhile isBlank).head? = some c := by
    rw [← trimStart, ← htail, hrest, List.cons_append, List.head?_cons]
  have hnot := List.head?_dropWhile_not isBlank cs
  rwa [hhead] at hnot

theorem getLast?_trim (cs : List Char) : ∀ c ∈ (trim cs).getLast?, isBlank c = false := by
  intro c hc
  obtain ⟨hne, rfl⟩ := List.mem_getLast?_eq_getLast hc
  exact Bool.eq_false_iff.mpr (List.rdropWhile_last_not isBlank (trimStart cs) hne)

theorem trims_trim (cs : List Char) : Trims cs (trim cs) := by
  have hlead : Blanks (cs.takeWhile isBlank) := fun c => List.mem_takeWhile_imp
  have htrail : Blanks ((trimStart cs).rtakeWhile isBlank) := fun c => List.mem_rtakeWhile_imp
  have hend : trim cs ++ (trimStart cs).rtakeWhile isBlank = trimStart cs :=
    List.rdropWhile_append_rtakeWhile
  have hsplit : cs = cs.takeWhile isBlank ++ trim cs ++ (trimStart cs).rtakeWhile isBlank := by
    rw [List.append_assoc, hend]
    exact List.takeWhile_append_dropWhile.symm
  exact ⟨_, _, hsplit, hlead, htrail, head?_trim cs, getLast?_trim cs⟩

theorem trims_iff {cs inner : List Char} : Trims cs inner ↔ inner = trim cs :=
  ⟨fun h => (trim_of_trims h).symm, fun h => h ▸ trims_trim cs⟩

/-! ## Words and the gaps between them -/

/-- The text `cs` is the words `ws` in order with blanks around them: some in front, and a gap
behind each word, of which only the last may be empty. -/
def Spaced (ws : List (List Char)) (cs : List Char) : Prop :=
  ∃ (lead : List Char) (gaps : List (List Char)), Blanks lead ∧ gaps.length = ws.length ∧
    (∀ gap ∈ gaps, Blanks gap) ∧ (∀ gap ∈ gaps.dropLast, gap ≠ []) ∧
    cs = lead ++ (List.zipWith (· ++ ·) ws gaps).flatten

theorem words_append_of_blanks {lead : List Char} (hlead : Blanks lead) (cs : List Char) :
    words (lead ++ cs) = words cs := by
  induction lead with
  | nil => rfl
  | cons c lead ih =>
    rw [List.cons_append, words_cons_blank _ (hlead c List.mem_cons_self)]
    exact ih fun d hd => hlead d (List.mem_cons_of_mem _ hd)

/-- The words of a text are found whatever the blanks around them are. -/
theorem words_of_spaced {ws : List (List Char)} {cs : List Char} (hws : ∀ w ∈ ws, Solid w)
    (h : Spaced ws cs) : words cs = ws := by
  obtain ⟨lead, gaps, hlead, hlen, hgaps, hne, rfl⟩ := h
  rw [words_append_of_blanks hlead]
  clear hlead
  induction ws generalizing gaps with
  | nil => simp
  | cons w ws ih =>
    cases gaps with
    | nil => cases hlen
    | cons gap gaps =>
      have hw := hws w List.mem_cons_self
      have hrest : words (List.zipWith (· ++ ·) ws gaps).flatten = ws := by
        refine ih (fun v hv => hws v (List.mem_cons_of_mem _ hv)) gaps (Nat.succ.inj hlen)
          (fun g hg => hgaps g (List.mem_cons_of_mem _ hg)) fun g hg => hne g ?_
        cases gaps with
        | nil => cases hg
        | cons g' gaps => exact List.mem_cons_of_mem _ hg
      -- the gap ends the word, or it is empty and the word is the last
      have hend : startsWord (gap ++ (List.zipWith (· ++ ·) ws gaps).flatten) = false := by
        cases gap with
        | cons c gap => simp [startsWord, hgaps _ List.mem_cons_self c List.mem_cons_self]
        | nil =>
          cases gaps with
          | nil => simp [startsWord]
          | cons g gaps => exact absurd rfl (hne [] List.mem_cons_self)
      rw [List.zipWith_cons_cons, List.flatten_cons, List.append_assoc,
        words_append hw.1 hw.2 hend, words_append_of_blanks (hgaps gap List.mem_cons_self), hrest]

theorem ne_nil_of_mem_words {cs w : List Char} (h : w ∈ words cs) : w ≠ [] := by
  induction cs generalizing w with
  | nil => cases h
  | cons c cs ih =>
    rw [words] at h
    split at h
    · exact ih h
    · split at h
      · split at h
        · simp_all
        · next v vs hwords =>
          rcases List.mem_cons.mp h with rfl | h
          · exact List.cons_ne_nil _ _
          · exact ih (hwords ▸ List.mem_cons_of_mem _ h)
      · rcases List.mem_cons.mp h with rfl | h
        · exact List.cons_ne_nil _ _
        · exact ih h

theorem solid_of_mem_words {cs w : List Char} (h : w ∈ words cs) : Solid w :=
  ⟨ne_nil_of_mem_words h, notBlank_of_mem_words h⟩

theorem flatten_words (cs : List Char) : (words cs).flatten = cs.filter (!isBlank ·) := by
  induction cs with
  | nil => rfl
  | cons c cs ih =>
    by_cases hc : isBlank c = true
    · rw [words_cons_blank cs hc, ih, List.filter_cons_of_neg (by simp [hc])]
    · rw [words, if_neg hc, List.filter_cons_of_pos (by simpa using hc), ← ih]
      split
      · split <;> simp_all
      · simp

theorem mem_of_mem_words {cs w : List Char} (h : w ∈ words cs) {c : Char} (hc : c ∈ w) :
    c ∈ cs := by
  have hmem : c ∈ (words cs).flatten := List.mem_flatten.mpr ⟨w, h, hc⟩
  rw [flatten_words] at hmem
  exact List.mem_of_mem_filter hmem

theorem eq_nil_of_startsWord {lead cs : List Char} (hlead : Blanks lead)
    (h : startsWord (lead ++ cs) = true) : lead = [] := by
  cases lead with
  | nil => rfl
  | cons c lead => simp [startsWord, hlead c List.mem_cons_self] at h

theorem spaced_words (cs : List Char) : Spaced (words cs) cs := by
  induction cs with
  | nil => exact ⟨[], [], by simp [Blanks], rfl, by simp, by simp, rfl⟩
  | cons c cs ih =>
    obtain ⟨lead, gaps, hlead, hlen, hgaps, hne, hcs⟩ := ih
    by_cases hc : isBlank c = true
    · rw [words_cons_blank cs hc]
      exact ⟨c :: lead, gaps, hlead.cons hc, hlen, hgaps, hne, by rw [List.cons_append, ← hcs]⟩
    · by_cases hstart : startsWord cs = true
      · -- the character goes in front of the first word
        obtain ⟨w, ws, hwords⟩ := List.exists_cons_of_ne_nil (words_ne_nil_of_startsWord hstart)
        rw [hwords] at hlen hcs
        obtain ⟨gap, gaps, rfl⟩ := List.exists_cons_of_length_eq_add_one hlen
        obtain rfl : lead = [] := eq_nil_of_startsWord hlead (hcs ▸ hstart)
        rw [words, if_neg hc, if_pos hstart, hwords]
        exact ⟨[], gap :: gaps, hlead, hlen, hgaps, hne, by simpa using hcs⟩
      · -- the character is a word of its own, and `lead` the gap behind it
        rw [words, if_neg hc, if_neg hstart]
        refine ⟨[], lead :: gaps, by simp [Blanks], by simp [hlen], by simpa using ⟨hlead, hgaps⟩,
          ?_, by simp [← hcs]⟩
        cases gaps with
        | nil => simp
        | cons gap gaps =>
          obtain ⟨w, ws, hwords⟩ := List.exists_cons_of_length_eq_add_one hlen.symm
          have hw : Solid w := solid_of_mem_words (hwords ▸ List.mem_cons_self)
          have hlead : lead ≠ [] := by
            rintro rfl
            rw [hcs, hwords] at hstart
            simp [startsWord_append_of_solid hw] at hstart
          simpa [hlead] using hne

/-- A text is that of its words, and of no others. -/
theorem spaced_iff {ws : List (List Char)} {cs : List Char} :
    (∀ w ∈ ws, Solid w) ∧ Spaced ws cs ↔ ws = words cs := by
  constructor
  · rintro ⟨hws, h⟩
    exact (words_of_spaced hws h).symm
  · rintro rfl
    exact ⟨fun w => solid_of_mem_words, spaced_words cs⟩

end Text

namespace Line

/-! ## The first mark -/

/-- The part of a text in front of the first mark, and the part behind it if there is a mark. -/
inductive Cut (mark : Char) (cs : List Char) : List Char → Option (List Char) → Prop where
  | whole : mark ∉ cs → Cut mark cs cs none
  | marked {front back : List Char} :
      cs = front ++ mark :: back → mark ∉ front → Cut mark cs front (some back)

theorem exists_cut (mark : Char) (cs : List Char) : ∃ front back, Cut mark cs front back := by
  by_cases h : mark ∈ cs
  · obtain ⟨front, back, hcs, hfront⟩ := List.eq_append_cons_of_mem h
    exact ⟨_, _, .marked hcs hfront⟩
  · exact ⟨_, _, .whole h⟩

section
variable {mark : Char} {text : String} {front : List Char} {back : Option (List Char)}
  (h : Cut mark text.toList front back)
include h

theorem Cut.notMem : mark ∉ front := by
  cases h with
  | whole h => exact h
  | marked _ h => exact h

theorem Cut.eq_none_iff : back = none ↔ mark ∉ text.toList := by
  cases h with
  | whole h => simp [h]
  | marked htext _ => simp [htext]

theorem tokens_of_cut : tokens mark text = (Text.words front).map String.ofList := by
  cases h with
  | whole h => rw [tokens, takeWhile_of_notMem h]
  | marked htext hfront => rw [tokens, htext, takeWhile_append_mark hfront]

theorem remark_of_cut : remark mark text = back.map fun cs => String.ofList (Text.trim cs) := by
  cases h with
  | whole h => simp [remark, h]
  | marked htext hfront => simp [remark, htext, dropWhile_append_mark hfront]

theorem mem_comment_iff (comment : String) :
    remark mark text = some comment ↔
      ∃ rest, back = some rest ∧ Text.Trims rest comment.toList := by
  rw [remark_of_cut h, Option.map_eq_some_iff]
  refine exists_congr fun rest => and_congr_right fun _ => ?_
  rw [Text.trims_iff, ← String.toList_inj, String.toList_ofList, eq_comm]

/-- The tokens are the only words that the front can be made of. -/
theorem spaced_tokens_iff (ts : List String) :
    (∀ t ∈ ts, Text.Solid t.toList ∧ mark ∉ t.toList) ∧ Text.Spaced (ts.map String.toList) front ↔
      ts = tokens mark text := by
  have hinj : ts.map String.toList = Text.words front ↔ ts = tokens mark text := by
    rw [tokens_of_cut h]
    constructor
    · intro hts
      simp [← hts]
    · rintro rfl
      simp [Function.comp_def]
  rw [← hinj, ← Text.spaced_iff]
  constructor
  · rintro ⟨hts, hspaced⟩
    refine ⟨fun w hw => ?_, hspaced⟩
    obtain ⟨t, ht, rfl⟩ := List.mem_map.mp hw
    exact (hts t ht).1
  · rintro ⟨hsolid, hspaced⟩
    refine ⟨fun t ht => ?_, hspaced⟩
    have hmem : t.toList ∈ ts.map String.toList := List.mem_map_of_mem ht
    have hword : t.toList ∈ Text.words front := Text.spaced_iff.mp ⟨hsolid, hspaced⟩ ▸ hmem
    exact ⟨hsolid _ hmem, fun hmark => h.notMem (Text.mem_of_mem_words hword hmark)⟩

end

theorem ne_empty_of_mem_tokens {mark : Char} {text t : String} (h : t ∈ tokens mark text) :
    t ≠ "" := by
  obtain ⟨w, hw, rfl⟩ := List.mem_map.mp h
  exact mt String.ofList_eq_empty_iff.mp (Text.ne_nil_of_mem_words hw)

/-- The comment of a line is the trimmed text behind the first mark. The text in front of it is
made of one list of words only, and those are the keyword, apart from its case, and the operands. -/
theorem scan_decomposes (mark : Char) (text : String) :
    ∃ (front : List Char) (back : Option (List Char)) (words : List String),
      Cut mark text.toList front back ∧
      ((scan (String.singleton mark) text).comment = none ↔ mark ∉ text.toList) ∧
      (∀ comment, (scan (String.singleton mark) text).comment = some comment ↔
        ∃ rest, back = some rest ∧ Text.Trims rest comment.toList) ∧
      (∀ ts : List String, (∀ t ∈ ts, Text.Solid t.toList ∧ mark ∉ t.toList) ∧
        Text.Spaced (ts.map String.toList) front ↔ ts = words) ∧
      (scan (String.singleton mark) text).keyword = words.head?.map Text.upper ∧
      (scan (String.singleton mark) text).operands = words.tail := by
  obtain ⟨front, back, hcut⟩ := exists_cut mark text.toList
  rw [scan_eq (String.toList_singleton mark) text]
  refine ⟨front, back, tokens mark text, hcut, ?_, mem_comment_iff hcut, spaced_tokens_iff hcut,
    rfl, rfl⟩
  rw [remark_of_cut hcut, Option.map_eq_none_iff, hcut.eq_none_iff]

example : scan "#" "\tSet 1  x## y " = ⟨some "SET", ["1", "x"], some "# y"⟩ := by decide

end Line

end RegisterMachine
