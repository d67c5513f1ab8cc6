/-!
# Lines

* `cutAt`: a text cut at every occurrence of a character; there is always at least one piece.
* `lines`: a text cut at every line feed, so that a text without one is a single line.
* `unified`: carriage return, and carriage return with line feed, become line feed.
* `Breaks`: whether the line breaks of an input are unified when it is read, or kept.
* `inputLines`: the lines a reader meets one after another: a final line feed ends the last
  line and starts no other.
* `joined`: parts with a separator between neighbours.
-/

namespace RegisterMachine.Text

/-- Cuts at every `sep`; the separators themselves are dropped. -/
def cutAt (sep : Char) : List Char → List (List Char)
  | [] => [[]]
  | c :: cs =>
    if c = sep then [] :: cutAt sep cs
    else
      match cutAt sep cs with
      | [] => [[c]]
      | l :: ls => (c :: l) :: ls

theorem cutAt_ne_nil (sep : Char) (cs : List Char) : cutAt sep cs ≠ [] := by
  cases cs with
  | nil => simp [cutAt]
  | cons c cs =>
    simp only [cutAt]
    split
    · simp
    · split <;> simp

def lines (s : String) : List String := (cutAt '\n' s.toList).map String.ofList

/-- Every line break becomes one line feed. -/
def unifyBreaks : List Char → List Char
  | [] => []
  | '\r' :: '\n' :: cs => '\n' :: unifyBreaks cs
  | '\r' :: cs => '\n' :: unifyBreaks cs
  | c :: cs => c :: unifyBreaks cs

def unified (s : String) : String := String.ofList (unifyBreaks s.toList)

/-- How the line breaks of an input are read. -/
inductive Breaks where
  | unified
  /-- Carriage returns stay, and only a line feed ends a line. -/
  | kept
deriving DecidableEq, Repr

def Breaks.read : Breaks → String → String
  | unified, s => Text.unified s
  | kept, s => s

/-- Drops the empty line that stands after a final line feed. -/
def dropFinalEmpty : List String → List String
  | [] => []
  | [l] => if l.isEmpty then [] else [l]
  | l :: m :: ls => l :: dropFinalEmpty (m :: ls)

def inputLines (s : String) : List String := dropFinalEmpty (lines s)

/-! ## Joining and padding -/

def joined (sep : String) (parts : List String) : String :=
  String.ofList (sep.toList.intercalate (parts.map String.toList))

/-- Fills up with spaces on the right to `width` characters. -/
def padRight (width : Nat) (s : String) : String :=
  s ++ String.ofList (List.replicate (width - s.length) ' ')

end RegisterMachine.Text
