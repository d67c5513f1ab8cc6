/-!
# Decimal numbers

* `text`: an integer in decimal, `Fits`: its text keeps to the digit limit.
* `Numeral`: an optional sign and at least one ASCII digit, `Numeral.scan?` reads one and
  `Numeral.value` is what it stands for.

Numbers of more than `digitLimit` digits, leading zeros not counted, are neither written nor
read; `Fits` and `Numeral.Fits` say where that line runs.
-/

namespace RegisterMachine.Decimal

/-- The largest number of digits that is converted between integers and text. -/
def digitLimit : Nat := 4300

/-! ## Writing -/

def digits (n : Nat) : List Char := Nat.toDigits 10 n

def chars (v : Int) : List Char :=
  if v < 0 then '-' :: digits v.natAbs else digits v.natAbs

/-- An integer in decimal, whatever its length. -/
def text (v : Int) : String := String.ofList (chars v)

/-- The least number with more digits than the limit allows. -/
def firstTooLong : Nat := Nat.pow (Nat.pow 10 43) (digitLimit / 43)

theorem firstTooLong_eq : firstTooLong = Nat.pow 10 digitLimit := by
  have h : 43 * (digitLimit / 43) = digitLimit := by decide
  rw [firstTooLong, Nat.pow_eq, Nat.pow_eq, Nat.pow_eq, ← Nat.pow_mul, h]

/-- The text of `v` keeps to the digit limit; the sign does not count. -/
def Fits (v : Int) : Prop := v.natAbs < firstTooLong

instance (v : Int) : Decidable (Fits v) := inferInstanceAs (Decidable (_ < _))

theorem fits_iff_length_digits (v : Int) :
    Fits v ↔ (digits v.natAbs).length ≤ digitLimit := by
  rw [Fits, firstTooLong_eq, Nat.pow_eq, digits, Nat.length_toDigits_le_iff (by decide) (by decide)]

/-- A natural number in decimal, filled up with zeros on the left to `width` digits. -/
def zeroPadded (width n : Nat) : String :=
  String.ofList (List.replicate (width - (digits n).length) '0' ++ digits n)

/-! ## Reading -/

/-- A signed numeral as it is written, leading zeros included. -/
structure Numeral where
  negative : Bool
  digits : List Char
deriving DecidableEq, Repr

/-- One or more ASCII digits. -/
def Numeral.ofDigits? (negative : Bool) (cs : List Char) : Option Numeral :=
  if !cs.isEmpty && cs.all Char.isDigit then some ⟨negative, cs⟩ else none

/-- Reads a whole text as one optional sign and digits. -/
def Numeral.scan? : List Char → Option Numeral
  | '-' :: cs => ofDigits? true cs
  | '+' :: cs => ofDigits? false cs
  | cs => ofDigits? false cs

def Numeral.significant (n : Numeral) : List Char := n.digits.dropWhile (· == '0')

def Numeral.Fits (n : Numeral) : Prop := n.significant.length ≤ digitLimit

instance (n : Numeral) : Decidable n.Fits := inferInstanceAs (Decidable (_ ≤ _))

def Numeral.magnitude (n : Numeral) : Nat := Nat.ofDigitChars 10 n.digits 0

def Numeral.value (n : Numeral) : Int :=
  if n.negative then -(n.magnitude : Int) else n.magnitude

end RegisterMachine.Decimal
