import RegisterMachine.Files.Path
import RegisterMachine.Proofs.Text.Lines

/-!
# Normal paths

A path that is read from a text is `Normal`. The text of such a path has its components again, with
none in front of them but those that lead nowhere (`components_text`).
-/

namespace RegisterMachine.Files

namespace Path

/-- A component that leads somewhere. -/
structure Proper (c : String) : Prop where
  ne_empty : c ≠ ""
  ne_dot : c ≠ "."
  slash_notMem : '/' ∉ c.toList

structure Normal (p : Path) : Prop where
  root : p.root = "" ∨ p.root = "/" ∨ p.root = "//"
  parts : ∀ c ∈ p.parts, Proper c

theorem slash_notMem_of_mem_components {s c : String} (h : c ∈ components s) :
    '/' ∉ c.toList := by
  obtain ⟨cs, hcs, rfl⟩ := List.mem_map.mp h
  rw [String.toList_ofList]
  exact Text.notMem_of_mem_cutAt hcs

theorem normal_ofText (s : String) : (ofText s).Normal where
  root := by
    simp only [ofText, rootOf]
    split <;> simp
  parts := by
    intro c hc
    obtain ⟨hmem, hkeep⟩ := List.mem_filter.mp hc
    simp only [Bool.not_eq_true', Bool.or_eq_false_iff, beq_eq_false_iff_ne] at hkeep
    exact ⟨hkeep.1, hkeep.2, slash_notMem_of_mem_components hmem⟩

theorem Normal.front {root : String} {front parts : List String} (hp : Normal ⟨root, parts⟩)
    (h : front <+: parts) : Normal ⟨root, front⟩ :=
  ⟨hp.root, fun c hc => hp.parts c (h.subset hc)⟩

theorem Normal.parent {p : Path} (hp : p.Normal) : p.parent.Normal :=
  Normal.front hp (List.dropLast_prefix p.parts)

/-! ## Texts -/

theorem text_ne_empty (p : Path) : p.text ≠ "" := by
  simp only [text]
  split
  · decide
  · next h => simpa using h

theorem text_of_cons {p : Path} (hp : p.Normal) {c : String} {cs : List String}
    (h : p.parts = c :: cs) : p.text = p.root ++ Text.joined "/" (c :: cs) := by
  have hc : c ≠ "" := (hp.parts c (h ▸ List.mem_cons_self)).ne_empty
  have hne : p.root ++ Text.joined "/" (c :: cs) ≠ "" := by
    intro hempty
    exact Text.joined_cons_ne_empty _ cs hc (String.append_eq_empty_iff.mp hempty).2
  simp only [text, h, String.isEmpty_iff, if_neg hne]

theorem components_slash (s : String) : components ("/" ++ s) = "" :: components s := by
  simp [components, Text.cutAt]

theorem components_joined {parts : List String} (hne : parts ≠ [])
    (h : ∀ c ∈ parts, Proper c) : components (Text.joined "/" parts) = parts :=
  Text.map_cutAt_joined hne fun c hc => (h c hc).slash_notMem

/-- The text of a normal path has its components, after some that lead nowhere. -/
theorem components_text {p : Path} (hp : p.Normal) :
    ∃ lead, (∀ c ∈ lead, c = "" ∨ c = ".") ∧ components p.text = lead ++ p.parts := by
  obtain ⟨root, parts⟩ := p
  cases parts with
  | nil =>
    refine ⟨components (text ⟨root, []⟩), ?_, (List.append_nil _).symm⟩
    obtain rfl | rfl | rfl : root = "" ∨ root = "/" ∨ root = "//" := hp.root <;> decide
  | cons c cs =>
    have hjoined := components_joined (List.cons_ne_nil c cs) hp.parts
    rw [text_of_cons hp rfl]
    obtain rfl | rfl | rfl : root = "" ∨ root = "/" ∨ root = "//" := hp.root
    · exact ⟨[], by simp, by rw [String.empty_append, hjoined, List.nil_append]⟩
    · exact ⟨[""], by simp, by rw [components_slash, hjoined]; rfl⟩
    · exact ⟨["", ""], by simp, by
        rw [show "//" = "/" ++ "/" from rfl, String.append_assoc, components_slash,
          components_slash, hjoined]
        rfl⟩

theorem start_text {p : Path} (hp : p.Normal) (home : Place) :
    home.start (p.text.toList.head? == some '/') = p.start home := by
  obtain ⟨root, parts⟩ := p
  cases parts with
  | nil => obtain rfl | rfl | rfl : root = "" ∨ root = "/" ∨ root = "//" := hp.root <;> rfl
  | cons c cs =>
    rw [text_of_cons hp rfl, start]
    obtain rfl | rfl | rfl : root = "" ∨ root = "/" ∨ root = "//" := hp.root
    · have hc := hp.parts c List.mem_cons_self
      have hhead : c.toList.head? ≠ some '/' := fun h => hc.slash_notMem (List.mem_of_mem_head? h)
      rw [String.empty_append, Text.head?_joined _ _ hc.ne_empty, beq_eq_false_iff_ne.mpr hhead]
      rfl
    · simp [show "/".isEmpty = false by decide]
    · simp [show "//".isEmpty = false by decide]

theorem text_append_singleton {root c : String} {cs : List String}
    (hp : Normal ⟨root, cs ++ [c]⟩) (hne : cs ≠ []) :
    text ⟨root, cs ++ [c]⟩ = text ⟨root, cs⟩ ++ ("/" ++ c) := by
  obtain ⟨first, rest, rfl⟩ := List.exists_cons_of_ne_nil hne
  rw [text_of_cons hp (List.cons_append), text_of_cons (hp.front (List.prefix_append _ _)) rfl,
    ← List.cons_append, Text.joined_append_singleton _ _ hne, String.append_assoc]

end Path

end RegisterMachine.Files
