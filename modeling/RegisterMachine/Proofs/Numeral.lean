import RegisterMachine.Proofs.Assembly
import RegisterMachine.Proofs.Text.Words

/-!
# Writing and reading numbers

`scan?_chars`: the decimal characters of an integer are a numeral, and its value is the integer
(`value_ofInt`). On both sides of the digit limit this keeps to the same line: a numeral that is not
too long has a value that can be written (`fits_of_scan?`), and the numeral of a number that can be
written is not too long (`fits_ofInt`). Hence an operand that was read can be written and read again
(`OperandType.read_text`).
-/

namespace RegisterMachine

namespace Decimal

/-! ## Characters -/

theorem isDigit_of_mem_digits {n : Nat} {c : Char} (h : c ∈ digits n) : c.isDigit = true :=
  Nat.isDigit_of_mem_toDigits (by decide) (by decide) h

theorem mem_chars {v : Int} {c : Char} (h : c ∈ chars v) : c = '-' ∨ c.isDigit = true := by
  unfold chars at h
  split at h
  · exact (List.mem_cons.mp h).imp_right isDigit_of_mem_digits
  · exact .inr (isDigit_of_mem_digits h)

theorem chars_ne_nil (v : Int) : chars v ≠ [] := by
  unfold chars
  split
  · exact List.cons_ne_nil _ _
  · exact Nat.toDigits_ne_nil

theorem toNat_of_isDigit {c : Char} (h : c.isDigit = true) : 48 ≤ c.toNat ∧ c.toNat ≤ 57 := by
  simp only [Char.isDigit, Bool.and_eq_true, decide_eq_true_eq, ge_iff_le,
    UInt32.le_iff_toNat_le] at h
  exact h

theorem isBlank_of_mem_chars {v : Int} {c : Char} (h : c ∈ chars v) : Text.isBlank c = false := by
  rcases mem_chars h with rfl | hdigit
  · decide
  · have hc := toNat_of_isDigit hdigit
    simp only [Text.isBlank, Bool.or_eq_false_iff, Bool.and_eq_false_iff, decide_eq_false_iff_not,
      beq_eq_false_iff_ne]
    omega

theorem ne_mark_of_mem_chars {v : Int} {c : Char} (h : c ∈ chars v) : c ≠ '#' := by
  rcases mem_chars h with rfl | hdigit
  · decide
  · rintro rfl
    cases hdigit

namespace Numeral

/-! ## Numerals of integers -/

/-- The numeral that `chars` writes. -/
def ofInt (v : Int) : Numeral := ⟨decide (v < 0), Decimal.digits v.natAbs⟩

theorem scan?_of_isDigit {c : Char} (hc : c.isDigit = true) (cs : List Char) :
    scan? (c :: cs) = ofDigits? false (c :: cs) := by
  have hminus : c ≠ '-' := by rintro rfl; cases hc
  have hplus : c ≠ '+' := by rintro rfl; cases hc
  unfold scan?
  split
  · next h => cases h; exact absurd rfl hminus
  · next h => cases h; exact absurd rfl hplus
  · rfl

theorem scan?_chars (v : Int) : scan? (chars v) = some (ofInt v) := by
  have hne : Decimal.digits v.natAbs ≠ [] := Nat.toDigits_ne_nil
  have hdigits : (Decimal.digits v.natAbs).all Char.isDigit = true := by
    rw [List.all_eq_true]
    exact fun c => isDigit_of_mem_digits
  have hof (negative : Bool) :
      ofDigits? negative (Decimal.digits v.natAbs) = some ⟨negative, Decimal.digits v.natAbs⟩ := by
    simp [ofDigits?, hne, hdigits]
  unfold chars
  split
  · next hneg => simp only [scan?, hof, ofInt, hneg, decide_true]
  · next hneg =>
    obtain ⟨c, cs, hcs⟩ := List.exists_cons_of_ne_nil hne
    have hc : c.isDigit = true := isDigit_of_mem_digits (n := v.natAbs) (by simp [hcs])
    rw [ofInt, decide_eq_false hneg, ← hof false, hcs, scan?_of_isDigit hc]

theorem value_ofInt (v : Int) : (ofInt v).value = v := by
  have hmagnitude : (ofInt v).magnitude = v.natAbs := Nat.ofDigitChars_ten_toDigits
  rw [value, hmagnitude]
  by_cases hneg : v < 0
  · simp only [ofInt, hneg, decide_true, if_true]
    omega
  · simp only [ofInt, hneg, decide_false, Bool.false_eq_true, if_false]
    omega

theorem fits_ofInt {v : Int} (h : Decimal.Fits v) : (ofInt v).Fits := by
  have hlen := (fits_iff_length_digits v).mp h
  have hdrop : (ofInt v).significant.length ≤ (Decimal.digits v.natAbs).length :=
    (List.dropWhile_sublist _).length_le
  exact Nat.le_trans hdrop hlen

/-! ## Values of numerals -/

theorem ofDigitChars_dropWhile (cs : List Char) :
    Nat.ofDigitChars 10 (cs.dropWhile (· == '0')) 0 = Nat.ofDigitChars 10 cs 0 := by
  induction cs with
  | nil => rfl
  | cons c cs ih =>
    rw [List.dropWhile_cons]
    split
    · next hc =>
      obtain rfl : c = '0' := by simpa using hc
      rw [ih, Nat.ofDigitChars_cons]
      rfl
    · rfl

theorem ofDigitChars_lt {cs : List Char} (h : ∀ c ∈ cs, c.isDigit = true) :
    Nat.ofDigitChars 10 cs 0 < 10 ^ cs.length := by
  induction cs with
  | nil => decide
  | cons c cs ih =>
    have hc := toNat_of_isDigit (h c List.mem_cons_self)
    have hrest := ih fun d hd => h d (List.mem_cons_of_mem _ hd)
    have hzero : '0'.toNat = 48 := rfl
    rw [Nat.ofDigitChars_cons, Nat.ofDigitChars_eq_ofDigitChars_zero, List.length_cons, hzero,
      Nat.pow_succ]
    have hdigit : 10 ^ cs.length * (10 * 0 + (c.toNat - 48)) ≤ 10 ^ cs.length * 9 :=
      Nat.mul_le_mul_left _ (by omega)
    omega

theorem isDigit_of_scan? {cs : List Char} {numeral : Numeral} (h : scan? cs = some numeral) :
    ∀ c ∈ numeral.digits, c.isDigit = true := by
  have hof {negative : Bool} {ds : List Char} (h : ofDigits? negative ds = some numeral) :
      ∀ c ∈ numeral.digits, c.isDigit = true := by
    unfold ofDigits? at h
    split at h
    · next hds =>
      cases h
      simp only [Bool.and_eq_true, List.all_eq_true] at hds
      exact hds.2
    · cases h
  unfold scan? at h
  split at h <;> exact hof h

theorem natAbs_value (numeral : Numeral) : numeral.value.natAbs = numeral.magnitude := by
  unfold value
  split <;> simp

/-- A numeral that is not too long has a value that is not too long. -/
theorem fits_of_scan? {cs : List Char} {numeral : Numeral} (h : scan? cs = some numeral)
    (hfits : numeral.Fits) : Decimal.Fits numeral.value := by
  have hsignificant : ∀ c ∈ numeral.significant, c.isDigit = true := fun c hc =>
    isDigit_of_scan? h c ((List.dropWhile_sublist _).mem hc)
  have hlt : numeral.magnitude < 10 ^ numeral.significant.length := by
    rw [magnitude, ← ofDigitChars_dropWhile]
    exact ofDigitChars_lt hsignificant
  have hlimit (k : Nat) (hk : numeral.significant.length ≤ k) : numeral.magnitude < Nat.pow 10 k :=
    Nat.lt_of_lt_of_le hlt (Nat.pow_le_pow_right (by decide) hk)
  rw [Decimal.Fits, natAbs_value, firstTooLong_eq]
  exact hlimit digitLimit hfits

end Numeral

end Decimal

/-! ## Operands -/

/-- An operand that was read can be written, and what is written is read as the same value. -/
theorem OperandType.read_text {t : OperandType} {source : Option String} {v : Int}
    (h : t.read source = .ok v) :
    Decimal.write v = .ok (Decimal.text v) ∧ t.read (some (Decimal.text v)) = .ok v := by
  obtain ⟨token, numeral, -, hscan, hfits, rfl, hbounds⟩ := (t.read_eq_ok_iff source v).mp h
  have hvalue := Decimal.Numeral.fits_of_scan? hscan hfits
  refine ⟨if_pos hvalue, (t.read_eq_ok_iff _ _).mpr ?_⟩
  refine ⟨_, .ofInt numeral.value, rfl, ?_, Decimal.Numeral.fits_ofInt hvalue,
    Decimal.Numeral.value_ofInt _, hbounds⟩
  rw [Decimal.text, String.toList_ofList,
    Text.trim_of_notBlank fun c => Decimal.isBlank_of_mem_chars, Decimal.Numeral.scan?_chars]

end RegisterMachine
