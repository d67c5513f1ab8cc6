import RegisterMachine.Text.Lines

/-!
# Text that arrives in blocks

Input comes in blocks of bytes, and a block may end inside a character. The bytes of that character
wait for the next block; at the end of the input nothing may wait.

* `isUnfinished`: bytes that are the beginning of one character and not all of it.
* `decodeBlock`: the text of a block and the bytes that wait.
* `Arrival`: the text that can be had from an input, and whether that is all of it.
* `Input`: bytes to be read as a whole (`Input.text?`) or line by line (`Input.lines`).
-/

namespace RegisterMachine.Text

/-- Is this a byte of a character other than its first? -/
def isContinuation (b : UInt8) : Bool := 0x80 ≤ b && b < 0xC0

/-- May three bytes begin with these two? Characters with a shorter form may not; surrogates, which
are no characters, are refused only when their third byte is there. -/
def beginsThree (a b : UInt8) : Bool :=
  isContinuation b && ((a == 0xE0 && 0xA0 ≤ b) || (0xE0 < a && a < 0xF0))

/-- May four bytes begin with these two? Characters with a shorter form may not, nor may values
beyond the last character. -/
def beginsFour (a b : UInt8) : Bool :=
  isContinuation b &&
    ((a == 0xF0 && 0x90 ≤ b) || (a == 0xF4 && b < 0x90) || (0xF0 < a && a < 0xF4))

def isUnfinished : List UInt8 → Bool
  | [a] => 0xC2 ≤ a && a < 0xF5
  | [a, b] => beginsThree a b || beginsFour a b
  | [a, b, c] => beginsFour a b && isContinuation c
  | _ => false

/-- The text of a block without its last `n` bytes, and these bytes, if they may wait. -/
def decodeHolding (block : ByteArray) (n : Nat) : Option (String × ByteArray) :=
  let waiting := block.extract (block.size - n) block.size
  if n ≤ block.size && (n == 0 || isUnfinished waiting.data.toList) then
    (String.fromUTF8? (block.extract 0 (block.size - n))).map fun text => (text, waiting)
  else none

/-- The text of a block and the bytes of an unfinished character at its end. -/
def decodeBlock (block : ByteArray) : Option (String × ByteArray) :=
  [0, 1, 2, 3].findSome? (decodeHolding block)

structure Arrival where
  text : String
  /-- Is the text all of the input? Otherwise the bytes after it are no text. -/
  complete : Bool
deriving DecidableEq, Repr

namespace Arrival

/-- The blocks in order, after bytes that wait already. -/
def ofBlocks (waiting : ByteArray) : List ByteArray → Arrival
  | [] => ⟨"", waiting.isEmpty⟩
  | block :: blocks =>
    match decodeBlock (waiting ++ block) with
    | none => ⟨"", false⟩
    | some (text, waiting) =>
      let more := ofBlocks waiting blocks
      ⟨text ++ more.text, more.complete⟩

def blockSize : Nat := 8192

def blocks (bytes : ByteArray) : List ByteArray :=
  (List.range ((bytes.size + blockSize - 1) / blockSize)).map fun i =>
    bytes.extract (i * blockSize) ((i + 1) * blockSize)

def ofBytes (bytes : ByteArray) : Arrival := ofBlocks .empty (blocks bytes)

/-- Drops a carriage return at the end, after which a line feed may be due. -/
def dropFinalReturn (cs : List Char) : List Char :=
  if cs.getLast? = some '\r' then cs.dropLast else cs

/-- The text as far as its line breaks can be told before more of it arrives. -/
def settled (breaks : Breaks) (s : String) : String :=
  match breaks with
  | .unified => unified (String.ofList (dropFinalReturn s.toList))
  | .kept => s

/-- The lines that can be read. If the input breaks off, these are the lines that end before that
is noticed. -/
def lines (breaks : Breaks) (a : Arrival) : List String :=
  if a.complete then inputLines (breaks.read a.text)
  else (Text.lines (settled breaks a.text)).dropLast

end Arrival

/-- The bytes of an input, and how its line breaks are read. -/
structure Input where
  bytes : ByteArray
  breaks : Breaks

namespace Input

def empty : Input := ⟨.empty, .kept⟩

/-- All of the text at once, if the bytes are UTF-8. -/
def text? (i : Input) : Option String := (String.fromUTF8? i.bytes).map i.breaks.read

def arrival (i : Input) : Arrival := .ofBytes i.bytes

/-- The lines that can be read one after another. -/
def lines (i : Input) : List String := i.arrival.lines i.breaks

end Input

end RegisterMachine.Text
