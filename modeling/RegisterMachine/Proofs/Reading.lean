import RegisterMachine.Proofs.Numeral
import RegisterMachine.Proofs.Scanning

/-!
# Which operands can be read

`Numeral.Written`: the texts that are numerals, an optional sign and at least one digit, and
`positional` what their digits stand for, each weighted by its power of ten. `read_decides` says
what becomes of an operand: it is no numeral, or it has a value within its bounds, or it is out of
range.
-/

namespace RegisterMachine

namespace Decimal

/-- At least one digit, and nothing but ASCII digits. -/
def AllDigits (cs : List Char) : Prop := cs ≠ [] ∧ ∀ c ∈ cs, c.isDigit = true

/-- The sum of the digits, each multiplied by the power of ten of its place. -/
def positional (cs : List Char) : Nat :=
  Nat.ofDigits 10 (cs.reverse.map fun c => c.toNat - '0'.toNat)

theorem ofDigitChars_eq_positional (cs : List Char) :
    Nat.ofDigitChars 10 cs 0 = positional cs := by
  induction cs using List.reverseRecOn with
  | nil => rfl
  | append_singleton cs c ih =>
    have hdigit (n : Nat) : Nat.ofDigitChars 10 [c] n = 10 * n + (c.toNat - '0'.toNat) := by
      rw [Nat.ofDigitChars_cons]
      rfl
    rw [Nat.ofDigitChars_append, hdigit, ih, positional, positional, List.reverse_concat,
      List.map_cons, Nat.ofDigits_cons, Nat.add_comm]

namespace Numeral

/-- The text of a numeral: one sign at most, and then the digits. -/
inductive Written : List Char → Numeral → Prop where
  | unsigned {cs : List Char} : AllDigits cs → Written cs ⟨false, cs⟩
  | plus {cs : List Char} : AllDigits cs → Written ('+' :: cs) ⟨false, cs⟩
  | minus {cs : List Char} : AllDigits cs → Written ('-' :: cs) ⟨true, cs⟩

theorem ofDigits?_eq_some_iff {negative : Bool} {cs : List Char} {n : Numeral} :
    ofDigits? negative cs = some n ↔ AllDigits cs ∧ n = ⟨negative, cs⟩ := by
  have hdigits : (!cs.isEmpty && cs.all Char.isDigit) = true ↔ AllDigits cs := by
    simp [AllDigits]
  unfold ofDigits?
  split
  · next h => simp [hdigits.mp h, eq_comm]
  · next h => simp [mt hdigits.mpr h]

theorem ofDigits?_of_allDigits {cs : List Char} (h : AllDigits cs) (negative : Bool) :
    ofDigits? negative cs = some ⟨negative, cs⟩ :=
  ofDigits?_eq_some_iff.mpr ⟨h, rfl⟩

theorem scan?_eq_some_iff {cs : List Char} {n : Numeral} : scan? cs = some n ↔ Written cs n := by
  constructor
  · intro h
    unfold scan? at h
    split at h
    · obtain ⟨hdigits, rfl⟩ := ofDigits?_eq_some_iff.mp h
      exact .minus hdigits
    · obtain ⟨hdigits, rfl⟩ := ofDigits?_eq_some_iff.mp h
      exact .plus hdigits
    · obtain ⟨hdigits, rfl⟩ := ofDigits?_eq_some_iff.mp h
      exact .unsigned hdigits
  · rintro (hdigits | hdigits | hdigits)
    · obtain ⟨c, rest, rfl⟩ := List.exists_cons_of_ne_nil hdigits.1
      rw [scan?_of_isDigit (hdigits.2 c List.mem_cons_self)]
      exact ofDigits?_of_allDigits hdigits false
    · exact ofDigits?_of_allDigits hdigits false
    · exact ofDigits?_of_allDigits hdigits true

/-- What a numeral stands for: its digits by their places, and its sign. -/
def signed (n : Numeral) : Int :=
  if n.negative then -(positional n.digits : Int) else positional n.digits

theorem value_eq_signed (n : Numeral) : n.value = n.signed := by
  rw [value, magnitude, ofDigitChars_eq_positional, signed]

end Numeral

end Decimal

namespace OperandType

open Decimal (Numeral)

section
variable (t : OperandType) {text : String} {inner : List Char}
  (htrims : Text.Trims text.toList inner)
include htrims

theorem read_of_not_written (h : ∀ n, ¬ Numeral.Written inner n) :
    t.read text = .error (.ofKind .inputType) := by
  have hscan : Numeral.scan? (Text.trim text.toList) = none := by
    rw [Text.trim_of_trims htrims, Option.eq_none_iff_forall_ne_some]
    exact fun n hn => h n (Numeral.scan?_eq_some_iff.mp hn)
  rw [read, Option.bind_some, hscan]

theorem read_of_written {n : Numeral} (h : Numeral.Written inner n) :
    t.read text =
      if (n.digits.dropWhile (· == '0')).length ≤ 4300 ∧ t.min ≤ n.signed ∧ n.signed ≤ t.max
      then .ok n.signed
      else .error (.ofKind .inputRange) := by
  have hscan : Numeral.scan? (Text.trim text.toList) = some n := by
    rw [Text.trim_of_trims htrims, Numeral.scan?_eq_some_iff.mpr h]
  rw [read, Option.bind_some, hscan, ← n.value_eq_signed]
  rfl

end

/-- The text of an operand without the blanks around it is a numeral or it is not. Only a numeral
has a value, which is the answer if it lies within the bounds; leading zeros do not count towards
the limit on its digits. -/
theorem read_decides (t : OperandType) (text : String) :
    ∃ inner, Text.Trims text.toList inner ∧
      (t.read text = .error (.ofKind .inputType) ↔ ¬ ∃ n, Numeral.Written inner n) ∧
      ∀ n, Numeral.Written inner n →
        t.read text =
          if (n.digits.dropWhile (· == '0')).length ≤ 4300 ∧ t.min ≤ n.signed ∧ n.signed ≤ t.max
          then .ok n.signed
          else .error (.ofKind .inputRange) := by
  have htrims := Text.trims_trim text.toList
  refine ⟨_, htrims, ⟨?_, fun h => ?_⟩, fun n => t.read_of_written htrims⟩
  · rintro hread ⟨n, hn⟩
    rw [t.read_of_written htrims hn] at hread
    split at hread <;> cases hread
  · exact t.read_of_not_written htrims (not_exists.mp h)

/-- A numeral with a sign, leading zeros and blanks around it. -/
theorem read_decides_padded :
    Numeral.Written (Text.trim "\t-0007 ".toList) ⟨true, "0007".toList⟩ ∧
      read ⟨"small", -100, 100, by decide⟩ "\t-0007 " = .ok (-7) := by
  have hwritten : Numeral.Written (Text.trim "\t-0007 ".toList) ⟨true, "0007".toList⟩ :=
    Numeral.scan?_eq_some_iff.mp (by decide)
  obtain ⟨inner, htrims, -, hread⟩ := read_decides ⟨"small", -100, 100, by decide⟩ "\t-0007 "
  obtain rfl := Text.trims_iff.mp htrims
  refine ⟨hwritten, ?_⟩
  rw [hread _ hwritten]
  decide

end OperandType

end RegisterMachine
