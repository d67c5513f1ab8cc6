import RegisterMachine.Text.Blocks

/-!
# Text that arrives in blocks, put together again

A text may be cut anywhere into blocks of bytes: what arrives is the text (`ofBytes_toByteArray`).
The bytes that wait after a block are the beginning of the character that the cut goes through, and
`Cut` says how a block of valid bytes is made up.
-/

namespace RegisterMachine.Text

/-! ## Valid bytes -/

theorem fromUTF8?_eq_some_iff {bytes : ByteArray} {s : String} :
    String.fromUTF8? bytes = some s ↔ bytes = s.toByteArray := by
  unfold String.fromUTF8?
  constructor
  · intro h
    split at h
    · cases h
      rfl
    · cases h
  · rintro rfl
    rw [dif_pos s.isValidUTF8]
    rfl

theorem isContinuation_ofNat (n : Nat) : isContinuation (.ofNat (n % 0x40 + 0x80)) = true := by
  simp only [isContinuation, UInt8.le_iff_toNat_le, UInt8.lt_iff_toNat_lt, UInt8.toNat_ofNat',
    UInt8.reduceToNat, Bool.and_eq_true, decide_eq_true_eq]
  omega

theorem beginsThree_ofNat {v : Nat} (hlow : 0x7ff < v) (hhigh : v ≤ 0xffff) :
    beginsThree (.ofNat (v / 4096 % 0x10 + 0xe0)) (.ofNat (v / 64 % 0x40 + 0x80)) = true := by
  simp only [beginsThree, isContinuation_ofNat, Bool.true_and, Bool.or_eq_true, Bool.and_eq_true,
    beq_iff_eq, decide_eq_true_eq, UInt8.le_iff_toNat_le, UInt8.lt_iff_toNat_lt,
    ← UInt8.toNat_inj, UInt8.toNat_ofNat', UInt8.reduceToNat]
  omega

theorem beginsFour_ofNat {v : Nat} (hlow : 0xffff < v) (hhigh : v < 0x110000) :
    beginsFour (.ofNat (v / 262144 % 0x08 + 0xf0)) (.ofNat (v / 4096 % 0x40 + 0x80)) = true := by
  simp only [beginsFour, isContinuation_ofNat, Bool.true_and, Bool.or_eq_true, Bool.and_eq_true,
    beq_iff_eq, decide_eq_true_eq, UInt8.le_iff_toNat_le, UInt8.lt_iff_toNat_lt,
    ← UInt8.toNat_inj, UInt8.toNat_ofNat', UInt8.reduceToNat]
  omega

theorem isUnfinished_singleton_ofNat {n : Nat} (hlow : 0xC2 ≤ n) (hhigh : n < 0xF5) :
    isUnfinished [.ofNat n] = true := by
  simp only [isUnfinished, Bool.and_eq_true, decide_eq_true_eq, UInt8.le_iff_toNat_le,
    UInt8.lt_iff_toNat_lt, UInt8.toNat_ofNat', UInt8.reduceToNat]
  omega

/-- Some of the bytes of a character, from the first on, may wait for the others. -/
theorem isUnfinished_of_append {c : Char} {front back : List UInt8}
    (h : front ++ back = String.utf8EncodeChar c) (hfront : front ≠ []) (hback : back ≠ []) :
    isUnfinished front = true := by
  have hc : c.val.toNat < 0x110000 := by
    have hvalid : c.val.toNat < 0xD800 ∨ 0xDFFF < c.val.toNat ∧ c.val.toNat < 0x110000 := c.valid
    omega
  obtain ⟨d, back, rfl⟩ := List.exists_cons_of_ne_nil hback
  unfold String.utf8EncodeChar at h
  generalize c.val.toNat = v at h hc
  dsimp only at h
  -- one case for each number of bytes, and in it one for each place of the cut
  split at h
  · match front with
    | a :: front => simp at h
  split at h
  · match front with
    | [a] =>
      obtain ⟨rfl, -⟩ := List.cons.inj h
      exact isUnfinished_singleton_ofNat (by omega) (by omega)
    | a :: b :: front => simp at h
  split at h
  · match front with
    | [a] =>
      obtain ⟨rfl, -⟩ := List.cons.inj h
      exact isUnfinished_singleton_ofNat (by omega) (by omega)
    | [a, b] =>
      simp only [List.cons_append, List.cons.injEq] at h
      obtain ⟨rfl, rfl, -⟩ := h
      rw [isUnfinished, beginsThree_ofNat (by omega) (by omega), Bool.true_or]
    | a :: b :: e :: front => simp at h
  · match front with
    | [a] =>
      obtain ⟨rfl, -⟩ := List.cons.inj h
      exact isUnfinished_singleton_ofNat (by omega) (by omega)
    | [a, b] =>
      simp only [List.cons_append, List.cons.injEq] at h
      obtain ⟨rfl, rfl, -⟩ := h
      rw [isUnfinished, beginsFour_ofNat (by omega) (by omega), Bool.or_true]
    | [a, b, e] =>
      simp only [List.cons_append, List.cons.injEq] at h
      obtain ⟨rfl, rfl, rfl, -⟩ := h
      rw [isUnfinished, beginsFour_ofNat (by omega) (by omega), isContinuation_ofNat, Bool.and_true]
    | a :: b :: e :: f :: front => simp at h

/-! ## Cuts -/

theorem exists_append_of_size_le {a b x y : ByteArray} (h : a ++ b = x ++ y)
    (hsize : x.size ≤ a.size) : ∃ z, a = x ++ z := by
  refine ⟨a.extract x.size a.size, ?_⟩
  have hfront := congrArg (·.extract 0 x.size) h
  simp only [ByteArray.extract_append, Nat.zero_sub, Nat.sub_eq_zero_of_le hsize,
    Nat.sub_self, ByteArray.extract_same, ByteArray.append_empty, ByteArray.extract_zero_size]
    at hfront
  calc a = a.extract 0 a.size := ByteArray.extract_zero_size.symm
    _ = a.extract 0 x.size ++ a.extract x.size a.size :=
      ByteArray.extract_eq_extract_append_extract _ (Nat.zero_le _) hsize
    _ = x ++ a.extract x.size a.size := by rw [hfront]

theorem eq_empty_of_toList {bytes : ByteArray} (h : bytes.data.toList = []) : bytes = .empty := by
  cases bytes with
  | mk data => exact congrArg ByteArray.mk (Array.toList_eq_nil_iff.mp h)

/-- `waiting` are the bytes of the text `back` that stand before a cut through its first character.
They are none if the cut is between two characters. -/
inductive Cut : ByteArray → List Char → Prop
  | between (back : List Char) : Cut .empty back
  | through {c : Char} {front rest : ByteArray} (h : front ++ rest = [c].utf8Encode)
      (hfront : front ≠ .empty) (hrest : rest ≠ .empty) (back : List Char) : Cut front (c :: back)

namespace Cut

variable {waiting : ByteArray} {back : List Char}

theorem isUnfinished (h : Cut waiting back) (hne : waiting.size ≠ 0) :
    isUnfinished waiting.data.toList = true := by
  cases h with
  | between => exact absurd rfl hne
  | @through c _ rest h hfront hrest =>
    have hbytes := congrArg (fun b => b.data.toList) h
    simp only [ByteArray.toList_data_append, List.utf8Encode_singleton,
      List.data_toByteArray] at hbytes
    refine isUnfinished_of_append hbytes (fun hnil => hfront ?_) fun hnil => hrest ?_
    · exact eq_empty_of_toList hnil
    · exact eq_empty_of_toList hnil

end Cut

theorem exists_cut {cs : List Char} {block rest : ByteArray} (h : block ++ rest = cs.utf8Encode) :
    ∃ front back waiting, cs = front ++ back ∧ block = front.utf8Encode ++ waiting ∧
      waiting ++ rest = back.utf8Encode ∧ Cut waiting back := by
  induction cs generalizing block with
  | nil =>
    obtain ⟨rfl, rfl⟩ := ByteArray.append_eq_empty_iff.mp h
    exact ⟨[], [], .empty, rfl, rfl, rfl, .between _⟩
  | cons c cs ih =>
    have hcons := h
    rw [List.utf8Encode_cons] at hcons
    by_cases hsize : [c].utf8Encode.size ≤ block.size
    · -- all of the first character is in the block
      obtain ⟨block, rfl⟩ := exists_append_of_size_le hcons hsize
      rw [ByteArray.append_assoc, ByteArray.append_right_inj] at hcons
      obtain ⟨front, back, waiting, rfl, rfl, hrest, hcut⟩ := ih hcons
      refine ⟨c :: front, back, waiting, rfl, ?_, hrest, hcut⟩
      rw [← ByteArray.append_assoc, List.utf8Encode_cons (l := front)]
    · refine ⟨[], c :: cs, block, rfl, ByteArray.empty_append.symm, h, ?_⟩
      by_cases hempty : block = .empty
      · subst hempty
        exact .between _
      · obtain ⟨more, hmore⟩ := exists_append_of_size_le hcons.symm (Nat.le_of_not_le hsize)
        refine .through hmore.symm hempty (fun hnone => hsize (Nat.le_of_eq ?_)) cs
        rw [hmore, hnone, ByteArray.append_empty]

/-! ## Blocks -/

section
variable {front back : List Char} {waiting : ByteArray} (h : Cut waiting back)
include h

end

namespace Arrival

end Arrival

namespace Input

variable {i : Input} {text : String} (h : String.fromUTF8? i.bytes = some text)
include h

theorem text?_of_valid : i.text? = some (i.breaks.read text) := by
  rw [text?, h, Option.map_some]

end Input

end RegisterMachine.Text
