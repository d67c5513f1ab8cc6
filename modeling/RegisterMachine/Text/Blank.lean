/-!
# Blank characters, trimming and words

* `isBlank`: the Unicode white space that separates words.
* `trim`: a text without the blanks at either end.
* `words`: the maximal blank-free runs of a text, in order.

All three work on `List Char`; `trimmed` is `trim` on strings.
-/

namespace RegisterMachine.Text

/-- White space: the ASCII controls 9–13 and 28–31, the space, and the Unicode spaces. -/
def isBlank (c : Char) : Bool :=
  let n := c.toNat
  (9 ≤ n && n ≤ 13) || (28 ≤ n && n ≤ 32) || n == 0x85 || n == 0xA0 || n == 0x1680 ||
    (0x2000 ≤ n && n ≤ 0x200A) || n == 0x2028 || n == 0x2029 || n == 0x202F || n == 0x205F ||
    n == 0x3000

/-! ## Trimming -/

def trimStart (cs : List Char) : List Char := cs.dropWhile isBlank

def trimEnd (cs : List Char) : List Char := (cs.reverse.dropWhile isBlank).reverse

/-- Blanks are removed at both ends and nothing else changes. -/
def trim (cs : List Char) : List Char := trimEnd (trimStart cs)

def trimmed (s : String) : String := String.ofList (trim s.toList)

/-! ## Words -/

/-- Does a word start right here? -/
def startsWord : List Char → Bool
  | [] => false
  | c :: _ => !isBlank c

/-- The maximal blank-free runs, in order; none of them is empty. -/
def words : List Char → List (List Char)
  | [] => []
  | c :: cs =>
    if isBlank c then words cs
    else if startsWord cs then
      match words cs with
      | [] => [[c]]
      | w :: ws => (c :: w) :: ws
    else [c] :: words cs

@[simp] theorem words_nil : words [] = [] := rfl

theorem words_cons_blank {c : Char} (cs : List Char) (h : isBlank c = true) :
    words (c :: cs) = words cs := by
  simp [words, h]

theorem words_ne_nil_of_startsWord {cs : List Char} (h : startsWord cs = true) :
    words cs ≠ [] := by
  cases cs with
  | nil => simp [startsWord] at h
  | cons c cs =>
    have hc : isBlank c = false := by simpa [startsWord] using h
    simp only [words, hc, Bool.false_eq_true, if_false]
    split
    · split <;> simp
    · simp

end RegisterMachine.Text
