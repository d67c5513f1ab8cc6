import RegisterMachine.Text.Blank
import RegisterMachine.Text.Upper

/-!
# Source lines

A line is a keyword with operands, a comment, both or neither. `Line.scan` takes it apart: the
comment starts at the first comment mark, and the words before the mark are the keyword, in upper
case, and the operands as written.
-/

namespace RegisterMachine

namespace Text

/-- The text before the first occurrence of `mark` and the text from there on. -/
def splitAtMark (mark : List Char) : List Char → Option (List Char × List Char)
  | [] => if mark.isEmpty then some ([], []) else none
  | c :: cs =>
    if mark.isPrefixOf (c :: cs) then some ([], c :: cs)
    else (splitAtMark mark cs).map fun p => (c :: p.1, p.2)

end Text

structure Line where
  keyword : Option String
  operands : List String
  comment : Option String
deriving DecidableEq, Repr

namespace Line

/-- Keyword and operands among the words in front of a comment. -/
def ofWords (words : List (List Char)) (comment : Option String) : Line :=
  match words with
  | [] => ⟨none, [], comment⟩
  | w :: ws => ⟨some (Text.upper (String.ofList w)), ws.map String.ofList, comment⟩

/-- Takes a line apart; a comment starts one character after the place where `mark` is found. -/
def scan (mark text : String) : Line :=
  match Text.splitAtMark mark.toList text.toList with
  | none => ofWords (Text.words text.toList) none
  | some (front, back) =>
    ofWords (Text.words front) (some (String.ofList (Text.trim (back.drop 1))))

end Line

end RegisterMachine
