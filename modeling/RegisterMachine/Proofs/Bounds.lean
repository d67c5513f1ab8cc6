import RegisterMachine.Proofs.Builtin

/-!
# How large registers get

`Registers.Bounded n`: no register is negative, all but the first hold words, and the first holds at
most `n + 1` words. A built-in statement keeps the bound, an `ADD` adding one word to it
(`Bounded.apply`). With fewer than `10 ^ 4000` words all registers keep to the digit limit
(`Bounded.fit`).
-/

namespace RegisterMachine

/-! ## The digit limit -/

theorem Decimal.lt_ten_pow {n : Nat} (h : n < 4000) : n < 10 ^ 4000 := by
  have hpow (k : Nat) : k < 10 ^ k := Nat.lt_pow_self (by decide)
  exact Nat.lt_trans h (hpow 4000)

theorem Decimal.fits_of_lt {v : Int} (h : v.natAbs < 10 ^ 5 * 10 ^ 4000) : Fits v := by
  have hpow (a b c : Nat) (habc : a + b ≤ c) : 10 ^ a * 10 ^ b ≤ Nat.pow 10 c := by
    rw [← Nat.pow_add]
    exact Nat.pow_le_pow_right (by decide) habc
  have hlimit (k : Nat) (hk : 5 + 4000 ≤ k) : v.natAbs < Nat.pow 10 k :=
    Nat.lt_of_lt_of_le h (hpow 5 4000 k hk)
  rw [Fits, firstTooLong_eq]
  exact hlimit digitLimit (by decide)

theorem Decimal.fits_natCast {n : Nat} (h : n ≤ 10 ^ 4000) : Fits n := by
  apply fits_of_lt
  rw [Int.natAbs_natCast]
  omega

/-! ## Bounded registers -/

theorem Instruction.same_add_iff (i : Instruction) : i.same .add = true ↔ i = .add := by
  obtain ⟨keyword, operands, routine, description⟩ := i
  cases routine <;> simp [Instruction.same, Instruction.add, Routine.same, and_assoc]

instance (i : Option Instruction) : Decidable (i = some .add) :=
  decidable_of_iff (i.map (·.same .add) = some true) <| by
    cases i <;> simp [Instruction.same_add_iff]

/-- How many words a statement can add to register 0. -/
def Statement.adds (s : Statement) : Nat := if s.instruction = some .add then 1 else 0

theorem Statement.adds_le_one (s : Statement) : s.adds ≤ 1 := by
  unfold adds
  split <;> omega

namespace Registers

/-- The first register holds at most `n + 1` words and any other at most one. -/
structure Bounded (n : Nat) (registers : List Int) : Prop where
  nonneg : ∀ v ∈ registers, 0 ≤ v
  first : ∀ v ∈ registers.head?, v ≤ OperandType.wordMax * (n + 1)
  others : ∀ v ∈ registers.tail, v ≤ OperandType.wordMax

theorem bounded_zero (count : Nat) : Bounded 0 (List.replicate count 0) := by
  have hzero : ∀ v ∈ List.replicate count (0 : Int), v = 0 := fun v hv =>
    List.eq_of_mem_replicate hv
  refine ⟨fun v hv => ?_, fun v hv => ?_, fun v hv => ?_⟩
  · exact Int.le_of_eq (hzero v hv).symm
  · obtain rfl := hzero v (List.mem_of_mem_head? hv)
    decide
  · obtain rfl := hzero v (List.mem_of_mem_tail hv)
    decide

theorem Bounded.mono {n k : Nat} {registers : List Int} (h : Bounded n registers) (hk : n ≤ k) :
    Bounded k registers := by
  refine ⟨h.nonneg, fun v hv => ?_, h.others⟩
  have hv := h.first v hv
  simp only [OperandType.wordMax] at hv ⊢
  omega

theorem Bounded.set {n : Nat} {registers : List Int} (h : Bounded n registers) {v : Int}
    (hv : 0 ≤ v ∧ v ≤ OperandType.wordMax) (i : Nat) : Bounded n (registers.set i v) := by
  have hword : v ≤ OperandType.wordMax * (n + 1) := by
    simp only [OperandType.wordMax] at hv ⊢
    omega
  cases registers with
  | nil => exact h
  | cons r rs =>
    cases i with
    | zero =>
      refine ⟨fun w hw => ?_, fun w hw => ?_, h.others⟩
      · rcases List.mem_cons.mp hw with rfl | hw
        · exact hv.1
        · exact h.nonneg w (List.mem_cons_of_mem _ hw)
      · obtain rfl : v = w := by simpa using hw
        exact hword
    | succ i =>
      refine ⟨fun w hw => ?_, h.first, fun w hw => ?_⟩
      · rcases List.mem_or_eq_of_mem_set hw with hw | rfl
        · exact h.nonneg w hw
        · exact hv.1
      · rcases List.mem_or_eq_of_mem_set hw with hw | rfl
        · exact h.others w hw
        · exact hv.2

theorem Bounded.add {n : Nat} {a b : Int} {rs : List Int} (h : Bounded n (a :: b :: rs)) :
    Bounded (n + 1) ((a + b) :: b :: rs) := by
  have ha : 0 ≤ a := h.nonneg a (by simp)
  have hb : 0 ≤ b := h.nonneg b (by simp)
  have haw : a ≤ OperandType.wordMax * (n + 1) := h.first a rfl
  have hbw : b ≤ OperandType.wordMax := h.others b (by simp)
  refine ⟨fun w hw => ?_, fun w hw => ?_, h.others⟩
  · rcases List.mem_cons.mp hw with rfl | hw
    · omega
    · exact h.nonneg w (List.mem_cons_of_mem _ hw)
  · obtain rfl : a + b = w := by simpa using hw
    simp only [OperandType.wordMax] at haw hbw ⊢
    omega

theorem Bounded.apply {last n : Nat} {registers : List Int} (h : Bounded n registers)
    {s : Statement} (hs : s.Builtin last) : Bounded (n + s.adds) (s.apply registers) := by
  cases hs with
  | comment => exact h
  | set line c hi hv => exact (h.set hv _).mono (Nat.le_add_right _ _)
  | add line c =>
    rcases registers with _ | ⟨a, _ | ⟨b, rs⟩⟩
    · exact h.mono (Nat.le_add_right _ _)
    · exact h.mono (Nat.le_add_right _ _)
    · exact h.add

theorem Bounded.fit {n : Nat} {registers : List Int} (h : Bounded n registers)
    (hn : n < 10 ^ 4000) : Fit registers := by
  intro v hv
  have hpos := h.nonneg v hv
  have hle : v ≤ OperandType.wordMax * (n + 1) := by
    cases registers with
    | nil => cases hv
    | cons r rs =>
      rcases List.mem_cons.mp hv with rfl | hv
      · exact h.first v rfl
      · have hword := h.others v hv
        simp only [OperandType.wordMax] at hword ⊢
        omega
  apply Decimal.fits_of_lt
  simp only [OperandType.wordMax] at hle
  omega

end Registers

end RegisterMachine
