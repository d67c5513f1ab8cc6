import RegisterMachine.Machine
import RegisterMachine.Proofs.Numeral
import RegisterMachine.Proofs.Text.Lines

/-!
# Register summaries read back

A summary is one bracketed number for each register, with a space between any two of them.
`Registers.ofText?` reads such a text, and takes exactly those that are written
(`ofText?_eq_some_iff`). So a summary loses nothing: machines with the same summary have the same
registers (`summary_eq_iff`).
-/

namespace RegisterMachine

namespace Registers

/-! ## One register -/

def cell (v : Int) : String := "[" ++ Decimal.text v ++ "]"

/-- The number in the brackets, which has to be written as in a summary: without needless zeros or
a plus sign. -/
def ofCell? (s : String) : Option Int :=
  ((Decimal.Numeral.scan? s.toList.tail.dropLast).map Decimal.Numeral.value).filter (cell · = s)

theorem toList_cell (v : Int) : (cell v).toList = '[' :: (Decimal.chars v ++ [']']) := by
  simp [cell, Decimal.text]

theorem cell_ne_empty (v : Int) : cell v ≠ "" := by
  simp [cell]

theorem blank_notMem_cell (v : Int) : ' ' ∉ (cell v).toList := by
  have hchars : ' ' ∉ Decimal.chars v := fun hmem =>
    absurd (Decimal.isBlank_of_mem_chars hmem) (by decide)
  simpa [toList_cell] using hchars

theorem ofCell?_eq_some_iff {s : String} {v : Int} : ofCell? s = some v ↔ s = cell v := by
  rw [ofCell?, Option.filter_eq_some_iff, decide_eq_true_eq]
  constructor
  · exact fun h => h.2.symm
  · rintro rfl
    rw [toList_cell, List.tail_cons, List.dropLast_concat, Decimal.Numeral.scan?_chars,
      Option.map_some, Decimal.Numeral.value_ofInt]
    exact ⟨rfl, rfl⟩

theorem mapM_ofCell?_eq_some_iff {pieces : List String} {registers : List Int} :
    pieces.mapM ofCell? = some registers ↔ pieces = registers.map cell := by
  induction pieces generalizing registers with
  | nil => cases registers <;> simp
  | cons piece pieces ih =>
    rw [List.mapM_cons]
    cases registers with
    | nil => simp [Option.bind_eq_some_iff]
    | cons v registers => simp [Option.bind_eq_some_iff, ofCell?_eq_some_iff, ih]

/-! ## All registers -/

/-- The numbers in the brackets of a text. An empty text has none. -/
def ofText? (s : String) : Option (List Int) :=
  if s = "" then some [] else ((Text.cutAt ' ' s.toList).map String.ofList).mapM ofCell?

theorem text_eq_joined (registers : List Int) :
    text registers = Text.joined " " (registers.map cell) := rfl

theorem text_ne_empty {registers : List Int} (h : registers ≠ []) : text registers ≠ "" := by
  obtain ⟨v, rest, rfl⟩ := List.exists_cons_of_ne_nil h
  exact Text.joined_cons_ne_empty " " _ (cell_ne_empty v)

theorem map_cutAt_text {registers : List Int} (h : registers ≠ []) :
    (Text.cutAt ' ' (text registers).toList).map String.ofList = registers.map cell := by
  have hcells : ∀ piece ∈ registers.map cell, ' ' ∉ piece.toList := by
    intro piece hpiece
    obtain ⟨v, -, rfl⟩ := List.mem_map.mp hpiece
    exact blank_notMem_cell v
  exact Text.map_cutAt_joined (by simpa using h) hcells

/-- What is read is what was written. -/
theorem ofText?_eq_some_iff {s : String} {registers : List Int} :
    ofText? s = some registers ↔ s = text registers := by
  unfold ofText?
  split
  · next hs =>
    subst hs
    rw [Option.some.injEq]
    constructor
    · rintro rfl
      rfl
    · intro htext
      by_contra hne
      exact text_ne_empty (Ne.symm hne) htext.symm
  · next hs =>
    rw [mapM_ofCell?_eq_some_iff]
    constructor
    · intro hpieces
      rw [text_eq_joined, ← hpieces]
      exact (Text.joined_cutAt ' ' s).symm
    · rintro rfl
      refine map_cutAt_text fun hnil => hs ?_
      rw [hnil]
      rfl

theorem ofText?_text (registers : List Int) : ofText? (text registers) = some registers :=
  ofText?_eq_some_iff.mpr rfl

theorem text_inj {registers others : List Int} :
    text registers = text others ↔ registers = others :=
  ⟨fun h => Option.some.inj (by rw [← ofText?_text registers, h, ofText?_text]), congrArg text⟩

theorem fit_of_lt {registers : List Int} (h : ∀ v ∈ registers, v.natAbs < 10 ^ 4300) :
    Fit registers := by
  have hlimit (k : Nat) (hk : k = Decimal.digitLimit) {v : Int} (hv : v.natAbs < 10 ^ k) :
      Decimal.Fits v := by
    rw [Decimal.Fits, Decimal.firstTooLong_eq, ← hk]
    exact hv
  exact fun v hv => hlimit 4300 rfl (h v hv)

end Registers

/-- Registers of at most 4300 digits have a summary. It is the only text that is read as these
registers, and no other registers have it. -/
theorem Machine.summary_eq_iff (m m' : Machine) (h : ∀ v ∈ m.registers, v.natAbs < 10 ^ 4300)
    (h' : ∀ v ∈ m'.registers, v.natAbs < 10 ^ 4300) :
    ∃ s s', m.summary = .ok s ∧ m'.summary = .ok s' ∧ (s = s' ↔ m.registers = m'.registers) ∧
      ∀ t, Registers.ofText? t = some m.registers ↔ t = s :=
  ⟨_, _, if_pos (Registers.fit_of_lt h), if_pos (Registers.fit_of_lt h'), Registers.text_inj,
    fun _ => Registers.ofText?_eq_some_iff⟩

/-- Three registers, one of them negative, and none at all. -/
theorem Machine.summary_eq_iff_negative :
    ∃ m m' : Machine, m.registers = [-12, 0, 3] ∧ m'.registers = [] ∧
      (∀ v ∈ m.registers, v.natAbs < 10 ^ 4300) ∧ (∀ v ∈ m'.registers, v.natAbs < 10 ^ 4300) ∧
      m.summary = .ok "[-12] [0] [3]" ∧ m'.summary = .ok "" ∧
      Registers.ofText? "[-12] [0] [3]" = some [-12, 0, 3] := by
  have hpow (k : Nat) {n : Nat} (hn : n < k) : n < 10 ^ k :=
    Nat.lt_trans hn (Nat.lt_pow_self (by decide))
  have hsmall : ∀ v ∈ [(-12 : Int), 0, 3], v.natAbs < 10 ^ 4300 := by
    have hlt : ∀ v ∈ [(-12 : Int), 0, 3], v.natAbs < 4300 := by decide
    exact fun v hv => hpow 4300 (hlt v hv)
  have hnone : ∀ v ∈ ([] : List Int), v.natAbs < 10 ^ 4300 := fun _ hv => nomatch hv
  obtain ⟨_, _, hs, -, -, hread⟩ :=
    summary_eq_iff { standard with registers := [-12, 0, 3] } { standard with registers := [] }
      hsmall hnone
  have htext : { standard with registers := [-12, 0, 3] }.summary = .ok "[-12] [0] [3]" := by
    rw [summary, Registers.summary, if_pos (Registers.fit_of_lt hsmall)]
    rfl
  have hempty : { standard with registers := [] }.summary = .ok "" := by
    rw [summary, Registers.summary, if_pos (Registers.fit_of_lt hnone)]
    rfl
  rw [htext] at hs
  cases hs
  exact ⟨_, _, rfl, rfl, hsmall, hnone, htext, hempty, (hread _).mpr rfl⟩

end RegisterMachine
