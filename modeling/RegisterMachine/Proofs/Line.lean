import Mathlib.Data.List.TakeWhile
import RegisterMachine.Line
import RegisterMachine.Proofs.Text.Words

/-!
# The parts of a line

For a comment mark of one character, `scan_eq` says where the parts of a line stand: the words in
front of the first mark are the keyword and the operands, and the trimmed text behind it is the
comment. `Line.tokens` are those words.
-/

namespace RegisterMachine

theorem Text.splitAtMark_singleton (mark : Char) (cs : List Char) :
    splitAtMark [mark] cs =
      if mark ∈ cs then some (cs.takeWhile (· != mark), cs.dropWhile (· != mark)) else none := by
  induction cs with
  | nil => rfl
  | cons c cs ih =>
    by_cases hc : c = mark
    · subst hc
      simp [splitAtMark]
    · have hhead : [mark].isPrefixOf (c :: cs) = false := by
        simp [List.isPrefixOf_cons_cons, Ne.symm hc]
      simp only [splitAtMark, hhead, Bool.false_eq_true, if_false, ih]
      by_cases hmem : mark ∈ cs
      · simp [hmem, hc]
      · simp [hmem, Ne.symm hc]

namespace Line

/-- The words in front of a comment. -/
def tokens (mark : Char) (line : String) : List String :=
  (Text.words (line.toList.takeWhile (· != mark))).map String.ofList

/-- The trimmed text behind the first mark. -/
def remark (mark : Char) (line : String) : Option String :=
  if mark ∈ line.toList then
    some (String.ofList (Text.trim ((line.toList.dropWhile (· != mark)).drop 1)))
  else none

theorem takeWhile_of_notMem {mark : Char} {cs : List Char} (h : mark ∉ cs) :
    cs.takeWhile (· != mark) = cs := by
  rw [List.takeWhile_eq_self_iff]
  intro c hc
  simp only [bne_iff_ne, ne_eq]
  rintro rfl
  exact h hc

section
variable {mark : Char} {front : List Char} (h : mark ∉ front) (back : List Char)
include h

theorem takeWhile_append_mark : (front ++ mark :: back).takeWhile (· != mark) = front := by
  rw [List.takeWhile_append_of_pos fun c hc => by simpa using ne_of_mem_of_not_mem hc h]
  simp

theorem dropWhile_append_mark : (front ++ mark :: back).dropWhile (· != mark) = mark :: back := by
  rw [List.dropWhile_append_of_pos fun c hc => by simpa using ne_of_mem_of_not_mem hc h]
  simp

end

theorem ofWords_eq (ws : List (List Char)) (comment : Option String) :
    ofWords ws comment = ⟨(ws.map String.ofList).head?.map Text.upper, (ws.map String.ofList).tail,
      comment⟩ := by
  cases ws <;> rfl

/-- The keyword is the first token in upper case, and the operands are the others. -/
theorem scan_eq {mark : String} {c : Char} (hmark : mark.toList = [c]) (line : String) :
    scan mark line =
      ⟨(tokens c line).head?.map Text.upper, (tokens c line).tail, remark c line⟩ := by
  unfold scan
  rw [hmark, Text.splitAtMark_singleton]
  by_cases hc : c ∈ line.toList
  · simp only [hc, if_true, ofWords_eq]
    rw [remark, if_pos hc]
    rfl
  · simp only [hc, if_false, ofWords_eq]
    rw [remark, if_neg hc, tokens, takeWhile_of_notMem hc]

theorem notBlank_of_mem_tokens {mark : Char} {line token : String} (h : token ∈ tokens mark line) :
    ∀ c ∈ token.toList, Text.isBlank c = false := by
  obtain ⟨w, hw, rfl⟩ := List.mem_map.mp h
  rw [String.toList_ofList]
  exact Text.notBlank_of_mem_words hw

/-- Blank lines are those with neither tokens nor a mark. -/
theorem isBlank_iff {mark : Char} (hmark : Text.isBlank mark = false) (line : String) :
    Text.IsBlank line ↔ tokens mark line = [] ∧ remark mark line = none := by
  have hremark : remark mark line = none ↔ mark ∉ line.toList := by
    unfold remark
    split <;> simp_all
  rw [hremark, tokens, List.map_eq_nil_iff, Text.words_eq_nil_iff]
  constructor
  · intro hblank
    have hmem : mark ∉ line.toList := by
      intro hmem
      rw [hblank mark hmem] at hmark
      cases hmark
    rw [takeWhile_of_notMem hmem]
    exact ⟨hblank, hmem⟩
  · rintro ⟨hblank, hmem⟩
    rw [takeWhile_of_notMem hmem] at hblank
    exact hblank

end Line

end RegisterMachine
