import RegisterMachine.Proofs.Line
import RegisterMachine.Proofs.Numeral
import RegisterMachine.Proofs.Text.Lines

/-!
# Statements as lines

`Statement.written` writes a statement as a line: the keyword, the operands in decimal and the
comment. A statement that was assembled can be written, and its line is assembled to the same
statement (`assembleLine_written`), provided that a keyword is a word in upper case.

`Line.written` is the line with given words and a given comment; `tokens_written` and
`remark_written` take it apart again.
-/

namespace RegisterMachine

/-! ## Lines with given words -/

namespace Line

/-- The words with a space between any two of them, and then the comment. -/
def written (words : List String) (comment : Option String) : String :=
  Text.joined " " words ++ (comment.map (" # " ++ ·)).getD ""

/-- A word of a line: neither empty nor with a blank or a comment mark in it. -/
def IsWord (word : String) : Prop :=
  word ≠ "" ∧ ∀ c ∈ word.toList, Text.isBlank c = false ∧ c ≠ '#'

instance (word : String) : Decidable (IsWord word) :=
  decidable_of_iff (word ≠ "" ∧ word.toList.all (fun c => !Text.isBlank c && c != '#') = true)
    (by simp [IsWord])

variable {words : List String}

theorem mark_notMem_joined (h : ∀ word ∈ words, IsWord word) :
    '#' ∉ (Text.joined " " words).toList :=
  Text.notMem_joined (by decide) fun word hword hmem => ((h word hword).2 '#' hmem).2 rfl

theorem toList_written_some (words : List String) (comment : String) :
    (written words (some comment)).toList =
      ((Text.joined " " words).toList ++ [' ']) ++ '#' :: ' ' :: comment.toList := by
  simp [written]

theorem toList_written_none (words : List String) :
    (written words none).toList = (Text.joined " " words).toList := by
  simp [written]

theorem tokens_written (hne : words ≠ []) (h : ∀ word ∈ words, IsWord word)
    (comment : Option String) : tokens '#' (written words comment) = words := by
  have hmark := mark_notMem_joined h
  have hwords (tail : List Char) (htail : ∀ c ∈ tail, Text.isBlank c = true) :
      Text.words ((Text.joined " " words).toList ++ tail) = words.map String.toList := by
    rw [Text.joined, String.toList_ofList]
    refine Text.words_intercalate (by simpa using hne) (fun w hw => ?_) htail
    obtain ⟨word, hword, rfl⟩ := List.mem_map.mp hw
    exact ⟨by simpa using (h word hword).1, fun c hc => ((h word hword).2 c hc).1⟩
  have hback : (words.map String.toList).map String.ofList = words := by simp
  cases comment with
  | none =>
    have hnone := hwords [] (by simp)
    rw [List.append_nil] at hnone
    rw [tokens, toList_written_none, takeWhile_of_notMem hmark, hnone, hback]
  | some comment =>
    have hfront : '#' ∉ (Text.joined " " words).toList ++ [' '] := by simpa using hmark
    rw [tokens, toList_written_some, takeWhile_append_mark hfront, hwords [' '] (by simp; rfl),
      hback]

theorem remark_written (h : ∀ word ∈ words, IsWord word) (comment : Option String) :
    remark '#' (written words comment) = comment.map Text.trimmed := by
  have hmark := mark_notMem_joined h
  cases comment with
  | none => rw [remark, toList_written_none, if_neg hmark]; rfl
  | some comment =>
    have hfront : '#' ∉ (Text.joined " " words).toList ++ [' '] := by simpa using hmark
    have hmem : '#' ∈ (written words (some comment)).toList := by simp [toList_written_some]
    rw [remark, if_pos hmem, toList_written_some, dropWhile_append_mark hfront, List.drop_one,
      List.tail_cons, Text.trim_cons_blank rfl]
    rfl

theorem trimmed_of_remark {mark : Char} {line comment : String}
    (h : remark mark line = some comment) : Text.trimmed comment = comment := by
  unfold remark at h
  split at h
  · cases h
    rw [Text.trimmed, String.toList_ofList, Text.trim_trim]
  · cases h

end Line

/-! ## Operands in decimal -/

theorem Decimal.isWord_text (v : Int) : Line.IsWord (text v) := by
  have htext : (text v).toList = chars v := String.toList_ofList
  refine ⟨?_, fun c hc => ?_⟩
  · rw [ne_eq, ← String.toList_inj, htext]
    exact chars_ne_nil v
  · rw [htext] at hc
    exact ⟨isBlank_of_mem_chars hc, ne_mark_of_mem_chars hc⟩

theorem Operand.readAll_text {os : List Operand} {ts : List (Option String)} {vs : List Int}
    (h : readAll os ts = .ok vs) (hlen : ts.length = os.length) :
    vs.length = os.length ∧ vs.mapM Decimal.write = .ok (vs.map Decimal.text) ∧
      readAll os (vs.map fun v => some (Decimal.text v)) = .ok vs := by
  induction os generalizing ts vs with
  | nil =>
    cases h
    exact ⟨rfl, rfl, rfl⟩
  | cons o os ih =>
    cases ts with
    | nil => cases hlen
    | cons t ts =>
      obtain ⟨v, hv, h⟩ := bind_eq_ok_iff.mp h
      obtain ⟨ws, hws, h⟩ := bind_eq_ok_iff.mp h
      cases h
      obtain ⟨hwrite, hread⟩ := OperandType.read_text hv
      obtain ⟨hlen', hwrites, hreads⟩ := ih hws (Nat.succ.inj hlen)
      refine ⟨by simp [hlen'], ?_, ?_⟩
      · rw [List.mapM_cons, hwrite, hwrites]
        rfl
      · rw [List.map_cons, readAll, hread, hreads]
        rfl

theorem Instruction.readOperands_text {i : Instruction} {ts : List (Option String)}
    {vs : List Int} (h : i.readOperands ts = .ok vs) :
    vs.mapM Decimal.write = .ok (vs.map Decimal.text) ∧
      i.readOperands ((vs.map Decimal.text).map some) = .ok vs := by
  unfold readOperands at h ⊢
  split at h
  · next hlen =>
    obtain ⟨hlen', hwrite, hread⟩ := Operand.readAll_text h hlen
    rw [List.map_map, List.length_map, if_pos hlen']
    exact ⟨hwrite, hread⟩
  · cases h

/-! ## Statements -/

def Statement.written (i : Instruction) (s : Statement) : Except Fault String := do
  let values ← s.operands.mapM Decimal.write
  return Line.written (i.keyword :: values) s.comment

theorem Line.scan_written {mark : String} (hmark : mark.toList = ['#']) {keyword : String}
    {operands : List String} {comment : Option String} (hupper : Text.upper keyword = keyword)
    (hwords : ∀ word ∈ keyword :: operands, IsWord word)
    (hcomment : comment.map Text.trimmed = comment) :
    scan mark (written (keyword :: operands) comment) = ⟨some keyword, operands, comment⟩ := by
  rw [scan_eq hmark, tokens_written (List.cons_ne_nil _ _) hwords, remark_written hwords, hcomment,
    List.head?_cons, Option.map_some, hupper, List.tail_cons]

theorem Line.comment_scan_trimmed {mark : String} {c : Char} (hmark : mark.toList = [c])
    (line : String) : (scan mark line).comment.map Text.trimmed = (scan mark line).comment := by
  rw [scan_eq hmark]
  cases hremark : remark c line with
  | none => rfl
  | some comment => rw [Option.map_some, trimmed_of_remark hremark]

/-- An assembled statement can be written, and the line it is written as is assembled to the same
statement. -/
theorem Language.assembleLine_written (l : Language) (hmark : l.mark = commentMark)
    (text : Option String) (s : Statement) (i : Instruction)
    (h : l.assembleLine text = .ok (some s)) (hi : s.instruction = some i)
    (hupper : Text.upper i.keyword = i.keyword)
    (hkeyword : ∀ c ∈ i.keyword.toList, Text.isBlank c = false ∧ c ≠ '#') :
    ∃ line, s.written i = .ok line ∧
      l.assembleLine (some line) = .ok (some { s with text := some line }) := by
  have hsharp : l.mark.toList = ['#'] := by rw [hmark]; rfl
  cases (assembleLine_eq_some_iff _ _ _).mp h with
  | comment => cases hi
  | @instruction k _ vs hk hlookup hvs =>
    cases hi
    obtain rfl : k = i.keyword := Option.some.inj (lookup_eq_ok hlookup).2
    obtain ⟨hwrite, hread⟩ := Instruction.readOperands_text hvs
    have hwords : ∀ word ∈ i.keyword :: vs.map Decimal.text, Line.IsWord word := by
      intro word hword
      rcases List.mem_cons.mp hword with rfl | hword
      · exact ⟨ne_empty_of_lookup hlookup, hkeyword⟩
      · obtain ⟨v, -, rfl⟩ := List.mem_map.mp hword
        exact Decimal.isWord_text v
    have hscan := Line.scan_written hsharp hupper hwords
      (Line.comment_scan_trimmed hsharp (text.getD ""))
    exact ⟨_, bind_eq_ok_iff.mpr ⟨_, hwrite, rfl⟩,
      (assembleLine_eq_some_iff _ _ _).mpr (.of_scan hscan hlookup hread)⟩

/-- Blanks, signs, leading zeros and lower case are gone, and the comment keeps its own mark. -/
theorem Language.assembleLine_written_signed :
    ∃ (l : Language) (i : Instruction) (s : Statement), l.mark = commentMark ∧
      l.assembleLine "\tmove -007  +5 #  see # 3 " = .ok (some s) ∧
      s.instruction = some i ∧ Text.upper i.keyword = i.keyword ∧
      (∀ c ∈ i.keyword.toList, Text.isBlank c = false ∧ c ≠ '#') ∧
      s.operands = [-7, 5] ∧ s.comment = some "see # 3" ∧
      s.written i = .ok "MOVE -7 5 # see # 3" ∧
      l.assembleLine "MOVE -7 5 # see # 3" =
        .ok (some { s with text := some "MOVE -7 5 # see # 3" }) := by
  have hs : Language.assembleLine ⟨[.add, ⟨"MOVE", [⟨"by", ⟨"small", -100, 100, by decide⟩⟩,
        ⟨"to", .word⟩], .custom [.setPc (.combine (· + ·) (.operand 0) (.operand 1))], ""⟩],
        commentMark⟩
      (some "\tmove -007  +5 #  see # 3 ") = .ok (some ⟨some _, [-7, 5], _, some "see # 3"⟩) := rfl
  have hupper : Text.upper "MOVE" = "MOVE" := by decide
  have hword : ∀ c ∈ "MOVE".toList, Text.isBlank c = false ∧ c ≠ '#' := by
    have hblank : ['M', 'O', 'V', 'E'].all (fun c => !Text.isBlank c) = true := by decide
    simpa using hblank
  obtain ⟨line, hline, h⟩ := Language.assembleLine_written _ rfl _ _ _ hs rfl hupper hword
  cases hline
  exact ⟨_, _, _, rfl, hs, rfl, hupper, hword, rfl, rfl, rfl, h⟩

end RegisterMachine
