import RegisterMachine.Text.Lines

/-!
# Lines and joined texts

`lines_joined`: lines without a line feed are read back from their joined text. The empty list of
lines joins to the empty text, which has one empty line. `lined_iff`: the lines that a reader meets
one after another are those that the text is made of, the last with or without a line feed.
-/

namespace RegisterMachine.Text

theorem cutAt_of_notMem {sep : Char} {cs : List Char} (h : sep ∉ cs) : cutAt sep cs = [cs] := by
  induction cs with
  | nil => rfl
  | cons c cs ih =>
    rw [List.mem_cons, not_or] at h
    simp only [cutAt, if_neg (Ne.symm h.1), ih h.2]

theorem cutAt_append (sep : Char) (cs rest : List Char) :
    cutAt sep (cs ++ sep :: rest) = cutAt sep cs ++ cutAt sep rest := by
  induction cs with
  | nil => simp [cutAt]
  | cons c cs ih =>
    obtain ⟨l, ls, hcut⟩ := List.exists_cons_of_ne_nil (cutAt_ne_nil sep cs)
    simp only [List.cons_append, cutAt, ih, hcut]
    split <;> rfl

theorem cutAt_append_sep {sep : Char} {cs : List Char} (h : sep ∉ cs) (rest : List Char) :
    cutAt sep (cs ++ sep :: rest) = cs :: cutAt sep rest := by
  rw [cutAt_append, cutAt_of_notMem h, List.singleton_append]

theorem notMem_of_mem_cutAt {sep : Char} {cs piece : List Char} (h : piece ∈ cutAt sep cs) :
    sep ∉ piece := by
  induction cs generalizing piece with
  | nil =>
    simp only [cutAt, List.mem_singleton] at h
    subst h
    exact List.not_mem_nil
  | cons c cs ih =>
    obtain ⟨l, ls, hcut⟩ := List.exists_cons_of_ne_nil (cutAt_ne_nil sep cs)
    rw [hcut] at ih
    simp only [cutAt, hcut] at h
    split at h
    · rcases List.mem_cons.mp h with rfl | h
      · exact List.not_mem_nil
      · exact ih h
    · next hc =>
      rcases List.mem_cons.mp h with rfl | h
      · rw [List.mem_cons, not_or]
        exact ⟨Ne.symm hc, ih List.mem_cons_self⟩
      · exact ih (List.mem_cons_of_mem _ h)

theorem cutAt_intercalate {sep : Char} {pieces : List (List Char)} (hne : pieces ≠ [])
    (h : ∀ piece ∈ pieces, sep ∉ piece) : cutAt sep ([sep].intercalate pieces) = pieces := by
  induction pieces with
  | nil => exact absurd rfl hne
  | cons first pieces ih =>
    have hfirst : sep ∉ first := h first List.mem_cons_self
    cases pieces with
    | nil =>
      rw [List.intercalate_singleton]
      exact cutAt_of_notMem hfirst
    | cons second rest =>
      have hrest := ih (List.cons_ne_nil _ _) fun piece hp => h piece (List.mem_cons_of_mem _ hp)
      rw [List.intercalate_cons_cons, List.append_assoc, List.singleton_append,
        cutAt_append_sep hfirst, hrest]

theorem intercalate_cutAt (sep : Char) (cs : List Char) :
    [sep].intercalate (cutAt sep cs) = cs := by
  induction cs with
  | nil => rfl
  | cons c cs ih =>
    obtain ⟨first, rest, hcut⟩ := List.exists_cons_of_ne_nil (cutAt_ne_nil sep cs)
    rw [hcut] at ih
    simp only [cutAt, hcut]
    split
    · next hc => rw [List.intercalate_cons_cons, ih, hc, List.nil_append, List.singleton_append]
    · cases rest with
      | nil => rw [← ih, List.intercalate_singleton, List.intercalate_singleton]
      | cons second rest =>
        rw [← ih, List.intercalate_cons_cons, List.intercalate_cons_cons, List.cons_append,
          List.cons_append]

/-! ## Texts -/

theorem notMem_joined {c : Char} {sep : String} {parts : List String} (hsep : c ∉ sep.toList)
    (h : ∀ part ∈ parts, c ∉ part.toList) : c ∉ (joined sep parts).toList := by
  induction parts with
  | nil => simp [joined]
  | cons first parts ih =>
    have hfirst : c ∉ first.toList := h first List.mem_cons_self
    have hrest := ih fun part hp => h part (List.mem_cons_of_mem _ hp)
    cases parts with
    | nil => simpa [joined] using hfirst
    | cons second parts =>
      simp only [joined, String.toList_ofList, List.map_cons] at hrest ⊢
      rw [List.intercalate_cons_cons]
      simp only [List.mem_append, not_or]
      exact ⟨⟨hfirst, hsep⟩, hrest⟩

theorem newline_notMem_of_mem_lines {s line : String} (h : line ∈ lines s) :
    '\n' ∉ line.toList := by
  obtain ⟨cs, hcs, rfl⟩ := List.mem_map.mp h
  rw [String.toList_ofList]
  exact notMem_of_mem_cutAt hcs

theorem lines_of_notMem {s : String} (h : '\n' ∉ s.toList) : lines s = [s] := by
  rw [lines, cutAt_of_notMem h, List.map_singleton, String.ofList_toList]

/-- Parts without the separator are read back from their joined text. -/
theorem map_cutAt_joined {sep : Char} {parts : List String} (hne : parts ≠ [])
    (h : ∀ part ∈ parts, sep ∉ part.toList) :
    (cutAt sep (joined (String.ofList [sep]) parts).toList).map String.ofList = parts := by
  have hpieces : ∀ piece ∈ parts.map String.toList, sep ∉ piece := by
    intro piece hpiece
    obtain ⟨part, hpart, rfl⟩ := List.mem_map.mp hpiece
    exact h part hpart
  rw [joined, String.toList_ofList, String.toList_ofList,
    cutAt_intercalate (by simpa using hne) hpieces, List.map_map]
  simp [Function.comp_def]

theorem joined_cutAt (sep : Char) (s : String) :
    joined (String.ofList [sep]) ((cutAt sep s.toList).map String.ofList) = s := by
  rw [joined, String.toList_ofList, List.map_map]
  simp [Function.comp_def, intercalate_cutAt]

/-- Lines are read back from their joined text. Without any, the text is empty and has one line. -/
theorem lines_joined {ls : List String} (h : ∀ line ∈ ls, '\n' ∉ line.toList) :
    lines (joined "\n" ls) = if ls = [] then [""] else ls := by
  by_cases hls : ls = []
  · rw [if_pos hls, hls]; rfl
  · rw [if_neg hls]
    exact map_cutAt_joined hls h

theorem head?_joined {part : String} (sep : String) (parts : List String) (h : part ≠ "") :
    (joined sep (part :: parts)).toList.head? = part.toList.head? := by
  obtain ⟨c, cs, hcs⟩ := List.exists_cons_of_ne_nil (show part.toList ≠ [] by simpa using h)
  cases parts with
  | nil => simp [joined]
  | cons second parts => simp [joined, List.intercalate_cons_cons, hcs]

theorem joined_cons_ne_empty {part : String} (sep : String) (parts : List String) (h : part ≠ "") :
    joined sep (part :: parts) ≠ "" := by
  intro hempty
  have hhead := head?_joined sep parts h
  rw [hempty] at hhead
  exact h (by simpa using hhead.symm)

theorem joined_append_singleton (sep last : String) {parts : List String} (hne : parts ≠ []) :
    joined sep (parts ++ [last]) = joined sep parts ++ (sep ++ last) := by
  induction parts with
  | nil => exact absurd rfl hne
  | cons first parts ih =>
    cases parts with
    | nil => simp [joined, List.intercalate_cons_cons]
    | cons second parts =>
      have hrest := congrArg String.toList (ih (List.cons_ne_nil _ _))
      simp only [joined, String.toList_ofList, String.toList_append, List.map_cons,
        List.cons_append] at hrest
      apply String.ext
      simp only [joined, String.toList_ofList, String.toList_append, List.map_cons,
        List.cons_append, List.intercalate_cons_cons, List.append_assoc, hrest]

/-! ## Reading line by line -/

theorem unifyBreaks_of_notMem {cs : List Char} (h : '\r' ∉ cs) : unifyBreaks cs = cs := by
  induction cs with
  | nil => rfl
  | cons c cs ih =>
    rw [List.mem_cons, not_or] at h
    have hc : c ≠ '\r' := Ne.symm h.1
    simp [unifyBreaks, hc, ih h.2]

/-- Without carriage returns there is one way to read an input. -/
theorem Breaks.read_of_notMem (breaks : Breaks) {s : String} (h : '\r' ∉ s.toList) :
    breaks.read s = s := by
  cases breaks with
  | unified => rw [read, Text.unified, unifyBreaks_of_notMem h, String.ofList_toList]
  | kept => rfl

/-- A text is made of lines, each with a line feed after it; the last one may do without if it is
not empty. -/
inductive Lined : String → List String → Prop
  | nil : Lined "" []
  | last {line : String} (h : '\n' ∉ line.toList) (hne : line ≠ "") : Lined line [line]
  | cons {line rest : String} {ls : List String} (h : '\n' ∉ line.toList) (hrest : Lined rest ls) :
      Lined (line ++ "\n" ++ rest) (line :: ls)

/-- A line feed ends one text and begins the other. -/
theorem lines_append (s t : String) : lines (s ++ "\n" ++ t) = lines s ++ lines t := by
  have hchars : (s ++ "\n" ++ t).toList = s.toList ++ '\n' :: t.toList := by simp
  rw [lines, hchars, cutAt_append, List.map_append, lines, lines]

theorem lines_append_newline {line : String} (h : '\n' ∉ line.toList) (rest : String) :
    lines (line ++ "\n" ++ rest) = line :: lines rest := by
  rw [lines_append, lines_of_notMem h, List.singleton_append]

theorem length_cutAt (sep : Char) (cs : List Char) :
    (cutAt sep cs).length = cs.count sep + 1 := by
  induction cs with
  | nil => rfl
  | cons c cs ih =>
    obtain ⟨l, ls, hcut⟩ := List.exists_cons_of_ne_nil (cutAt_ne_nil sep cs)
    rw [hcut, List.length_cons] at ih
    rw [cutAt, hcut]
    by_cases hc : c = sep
    · rw [if_pos hc, hc, List.count_cons_self, List.length_cons, List.length_cons, ih]
    · rw [if_neg hc, List.count_cons_of_ne hc, List.length_cons, ih]

/-- A text has one line more than it has line feeds. -/
theorem length_lines (s : String) : (lines s).length = s.toList.count '\n' + 1 := by
  rw [lines, List.length_map, length_cutAt]

theorem inputLines_append_newline {line : String} (h : '\n' ∉ line.toList) (rest : String) :
    inputLines (line ++ "\n" ++ rest) = line :: inputLines rest := by
  obtain ⟨first, more, hlines⟩ : ∃ first more, lines rest = first :: more :=
    List.exists_cons_of_ne_nil (by simp [lines, cutAt_ne_nil])
  rw [inputLines, lines_append_newline h, inputLines, hlines, dropFinalEmpty]

theorem inputLines_of_notMem {s : String} (h : '\n' ∉ s.toList) :
    inputLines s = if s = "" then [] else [s] := by
  rw [inputLines, lines_of_notMem h, dropFinalEmpty]
  by_cases hs : s = "" <;> simp [hs]

theorem lined_inputLines (s : String) : Lined s (inputLines s) := by
  -- by induction on the length of `s`, from one line feed to the next
  generalize hn : s.toList.length = n
  induction n using Nat.strongRecOn generalizing s with
  | _ n ih =>
    by_cases hmem : '\n' ∈ s.toList
    · obtain ⟨front, back, hsplit, hfront⟩ := List.eq_append_cons_of_mem hmem
      have hs : s = String.ofList front ++ "\n" ++ String.ofList back := by
        apply String.ext
        simp [hsplit]
      have hline : '\n' ∉ (String.ofList front).toList := by simpa using hfront
      have hlt : back.length < n := by
        rw [← hn, hsplit, List.length_append, List.length_cons]
        omega
      rw [hs, inputLines_append_newline hline]
      exact .cons hline (ih back.length hlt _ (by simp))
    · rw [inputLines_of_notMem hmem]
      by_cases hs : s = ""
      · rw [if_pos hs, hs]
        exact .nil
      · rw [if_neg hs]
        exact .last hmem hs

theorem lined_iff {s : String} {ls : List String} : Lined s ls ↔ inputLines s = ls := by
  constructor
  · intro h
    induction h with
    | nil => rfl
    | last h hne => rw [inputLines_of_notMem h, if_neg hne]
    | cons h _ ih => rw [inputLines_append_newline h, ih]
  · rintro rfl
    exact lined_inputLines s

end RegisterMachine.Text
