import Mathlib.Data.List.DropRight
import RegisterMachine.Text.Blank

/-!
# Words and blanks

A text has no words exactly if it is blank (`words_eq_nil_iff`), and words hold no blanks
(`notBlank_of_mem_words`), so that there is nothing to trim from them. Words with spaces between
them are read back (`words_intercalate`), and nothing is left to trim in a trimmed text
(`trim_trim`).
-/

namespace RegisterMachine.Text

def IsBlank (s : String) : Prop := ∀ c ∈ s.toList, isBlank c = true

instance (s : String) : Decidable (IsBlank s) :=
  List.decidableBAll (fun c => isBlank c = true) s.toList

theorem words_eq_nil_iff (cs : List Char) : words cs = [] ↔ ∀ c ∈ cs, isBlank c = true := by
  induction cs with
  | nil => simp
  | cons c cs ih =>
    by_cases hc : isBlank c = true
    · rw [words_cons_blank cs hc, ih]
      simp [hc]
    · have hne : words (c :: cs) ≠ [] := words_ne_nil_of_startsWord (by simpa [startsWord] using hc)
      simp [hne, hc]

theorem notBlank_of_mem_words {cs w : List Char} (h : w ∈ words cs) :
    ∀ c ∈ w, isBlank c = false := by
  induction cs generalizing w with
  | nil => simp at h
  | cons c cs ih =>
    by_cases hc : isBlank c = true
    · rw [words_cons_blank cs hc] at h
      exact ih h
    · have hcf : isBlank c = false := by simpa using hc
      have hsingle : ∀ d ∈ [c], isBlank d = false := by simpa using hcf
      simp only [words, hcf, Bool.false_eq_true, if_false] at h
      split at h
      · split at h
        · rw [List.mem_singleton] at h
          exact h ▸ hsingle
        · next v vs hwords =>
          rw [hwords] at ih
          rcases List.mem_cons.mp h with rfl | h
          · intro d hd
            rcases List.mem_cons.mp hd with rfl | hd
            · exact hcf
            · exact ih List.mem_cons_self d hd
          · exact ih (List.mem_cons_of_mem _ h)
      · rcases List.mem_cons.mp h with rfl | h
        · exact hsingle
        · exact ih h

/-! ## Texts made of words -/

/-- A word at the front of a text, up to its end or to a blank. -/
theorem words_append {w tail : List Char} (hne : w ≠ []) (h : ∀ c ∈ w, isBlank c = false)
    (htail : startsWord tail = false) : words (w ++ tail) = w :: words tail := by
  induction w with
  | nil => exact absurd rfl hne
  | cons c w ih =>
    have hc : isBlank c = false := h c List.mem_cons_self
    cases w with
    | nil => simp [words, hc, htail]
    | cons d w =>
      have hw : ∀ e ∈ d :: w, isBlank e = false := fun e he => h e (List.mem_cons_of_mem _ he)
      have hstart : startsWord (d :: w ++ tail) = true := by
        simp [startsWord, hw d List.mem_cons_self]
      rw [List.cons_append, words, if_neg (by simp [hc]), if_pos hstart,
        ih (List.cons_ne_nil d w) hw]

theorem startsWord_of_blank {cs : List Char} (h : ∀ c ∈ cs, isBlank c = true) :
    startsWord cs = false := by
  cases cs with
  | nil => rfl
  | cons c cs => simp [startsWord, h c List.mem_cons_self]

/-- Words are read back from a text that has a space between any two of them; blanks may follow. -/
theorem words_intercalate {ws : List (List Char)} {tail : List Char} (hne : ws ≠ [])
    (h : ∀ w ∈ ws, w ≠ [] ∧ ∀ c ∈ w, isBlank c = false) (htail : ∀ c ∈ tail, isBlank c = true) :
    words ([' '].intercalate ws ++ tail) = ws := by
  induction ws with
  | nil => exact absurd rfl hne
  | cons w ws ih =>
    obtain ⟨hw, hwblank⟩ := h w List.mem_cons_self
    cases ws with
    | nil =>
      rw [List.intercalate_singleton, words_append hw hwblank (startsWord_of_blank htail),
        (words_eq_nil_iff tail).mpr htail]
    | cons v ws =>
      have hrest := ih (List.cons_ne_nil _ _) fun u hu => h u (List.mem_cons_of_mem _ hu)
      rw [List.intercalate_cons_cons, List.append_assoc, List.append_assoc, List.singleton_append,
        words_append hw hwblank rfl, words_cons_blank _ rfl, hrest]

/-! ## Trimming -/

theorem dropWhile_isBlank_of_notBlank {cs : List Char} (h : ∀ c ∈ cs, isBlank c = false) :
    cs.dropWhile isBlank = cs := by
  cases cs with
  | nil => rfl
  | cons c cs => rw [List.dropWhile_cons, h c List.mem_cons_self]; rfl

theorem trim_of_notBlank {cs : List Char} (h : ∀ c ∈ cs, isBlank c = false) : trim cs = cs := by
  have hrev : ∀ c ∈ cs.reverse, isBlank c = false := fun c hc => h c (List.mem_reverse.mp hc)
  rw [trim, trimStart, dropWhile_isBlank_of_notBlank h, trimEnd, dropWhile_isBlank_of_notBlank hrev,
    List.reverse_reverse]

theorem trim_cons_blank {b : Char} (hb : isBlank b = true) (cs : List Char) :
    trim (b :: cs) = trim cs := by
  rw [trim, trimStart, List.dropWhile_cons, if_pos hb, trim, trimStart]

theorem trim_trim (cs : List Char) : trim (trim cs) = trim cs := by
  have hend (ds : List Char) : trimEnd ds = ds.rdropWhile isBlank := rfl
  -- a trimmed text starts like the text without the blanks in front
  have hstart : trimStart (trim cs) = trim cs := by
    have hfront : trim cs <+: trimStart cs := by
      rw [trim, hend]
      exact List.rdropWhile_prefix _ _
    rw [trimStart, List.dropWhile_eq_self_iff]
    intro hpos
    have hpos' : 0 < (trimStart cs).length := Nat.lt_of_lt_of_le hpos hfront.length_le
    rw [hfront.getElem hpos]
    exact List.dropWhile_get_zero_not _ _ hpos'
  rw [trim, hstart, trim, hend, hend, List.rdropWhile_idempotent]

end RegisterMachine.Text
