import RegisterMachine.Proofs.Line
import RegisterMachine.Proofs.Program

/-!
# Programs as histories of writes

What the lines of a text mean, without running them. `assigns` and `isAdd` read a single line.
Over a list of lines, register 1 holds the last value assigned to it (`lastAssigned`), and register
0 the last value assigned to it and, for each later `ADD`, what register 1 held then (`total`).

`registers_eq`: this is what execution leaves in the registers. `runText_output_eq`: hence the
output of a program is a function of its source.
-/

namespace RegisterMachine.History

open Machine (standardLanguage)

/-! ## Lines -/

def number (token : String) : Option Int :=
  (Decimal.Numeral.scan? token.toList).map Decimal.Numeral.value

/-- The value that a line puts into register `r`. -/
def assigns (r : Int) (line : String) : Option Int :=
  match Line.tokens '#' line with
  | [keyword, index, value] =>
    if Text.upper keyword = "SET" ∧ number index = some r then number value else none
  | _ => none

def isAdd (line : String) : Bool :=
  match Line.tokens '#' line with
  | [keyword] => Text.upper keyword == "ADD"
  | _ => false

def lastAssigned (r : Int) (ls : List String) : Int :=
  (ls.filterMap (assigns r)).getLast?.getD 0

/-- The positions of the `ADD` lines with no `SET` of register 0 behind them. -/
def adds (ls : List String) : List Nat :=
  (List.range ls.length).filter fun i =>
    (ls[i]?.any isAdd) && (ls.drop (i + 1)).all fun line => (assigns 0 line).isNone

def total (ls : List String) : Int :=
  lastAssigned 0 ls + ((adds ls).map fun i => lastAssigned 1 (ls.take i)).sum

/-! ## One more line -/

theorem lastAssigned_append (r : Int) (ls : List String) (line : String) :
    lastAssigned r (ls ++ [line]) = (assigns r line).getD (lastAssigned r ls) := by
  unfold lastAssigned
  rw [List.filterMap_append]
  cases h : assigns r line with
  | none => simp [h]
  | some v => simp [h]

/-- A `SET` of register 0 ends the effect of all `ADD` lines before it. -/
theorem adds_append (ls : List String) (line : String) :
    adds (ls ++ [line]) =
      (if (assigns 0 line).isNone then adds ls else []) ++
        if isAdd line then [ls.length] else [] := by
  -- at an old position, `line` counts only as one more line behind it
  have hold : ∀ i ∈ List.range ls.length,
      (((ls ++ [line])[i]?.any isAdd) &&
          ((ls ++ [line]).drop (i + 1)).all fun line => (assigns 0 line).isNone) =
        (((ls[i]?.any isAdd) && (ls.drop (i + 1)).all fun line => (assigns 0 line).isNone) &&
          (assigns 0 line).isNone) := by
    intro i hi
    rw [List.mem_range] at hi
    rw [List.getElem?_append_left hi, List.drop_append_of_le_length hi, List.all_append,
      Bool.and_assoc]
    simp
  unfold adds
  rw [List.length_append, List.length_singleton, List.range_succ, List.filter_append,
    List.filter_congr hold]
  congr 1
  · cases (assigns 0 line).isNone <;> simp
  · simp [List.filter_cons]

theorem assigns_of_isAdd {line : String} (h : isAdd line = true) (r : Int) :
    assigns r line = none := by
  unfold isAdd at h
  unfold assigns
  split at h
  · next keyword htokens => rw [htokens]
  · cases h

theorem sum_adds_append (ls : List String) (line : String) :
    ((adds ls).map fun i => lastAssigned 1 ((ls ++ [line]).take i)).sum =
      ((adds ls).map fun i => lastAssigned 1 (ls.take i)).sum := by
  congr 1
  apply List.map_congr_left
  intro i hi
  have hlt : i < ls.length := by
    unfold adds at hi
    exact List.mem_range.mp (List.mem_filter.mp hi).1
  rw [List.take_append_of_le_length (Nat.le_of_lt hlt)]

theorem total_append (ls : List String) (line : String) :
    total (ls ++ [line]) =
      (assigns 0 line).getD (if isAdd line then total ls + lastAssigned 1 ls else total ls) := by
  unfold total
  rw [lastAssigned_append, adds_append]
  cases hset : assigns 0 line with
  | some v =>
    have hadd : isAdd line = false := by
      by_contra h
      rw [assigns_of_isAdd (by simpa using h)] at hset
      cases hset
    simp [hadd]
  | none =>
    cases hadd : isAdd line with
    | false => simp [sum_adds_append]
    | true => simp [sum_adds_append, Int.add_assoc]

/-! ## Execution -/

theorem number_of_read {t : OperandType} {token line : String} {v : Int}
    (htoken : token ∈ Line.tokens '#' line) (h : t.read token = .ok v) : number token = some v := by
  obtain ⟨token', numeral, htext, hscan, -, hv, -⟩ := (t.read_eq_ok_iff _ v).mp h
  cases htext
  rw [Text.trim_of_notBlank (Line.notBlank_of_mem_tokens htoken)] at hscan
  rw [number, hscan, Option.map_some, hv]

theorem apply_of_no_tokens {line : String} (h : Line.tokens '#' line = []) (a b : Int) :
    [(assigns 0 line).getD (if isAdd line then a + b else a), (assigns 1 line).getD b] =
      [a, b] := by
  have hassigns (r : Int) : assigns r line = none := by rw [assigns, h]
  have hadd : isAdd line = false := by rw [isAdd, h]
  simp [hassigns, hadd]

/-- What a statement does to the registers can be read off its line. -/
theorem apply_eq {line : String} {s : Statement} (h : (Language.builtin 1).Assembles (some line) s)
    (a b : Int) :
    s.apply [a, b] =
      [(assigns 0 line).getD (if isAdd line then a + b else a), (assigns 1 line).getD b] := by
  cases h with
  | comment hkey =>
    rw [Option.getD_some, Language.scan_builtin, Option.map_eq_none_iff,
      List.head?_eq_none_iff] at hkey
    exact (apply_of_no_tokens hkey a b).symm
  | instruction hkey hi hvs =>
    simp only [Option.getD_some, Language.scan_builtin] at hkey hvs
    obtain ⟨word, hword, rfl⟩ := Option.map_eq_some_iff.mp hkey
    obtain ⟨rest, htokens⟩ := List.head?_eq_some_iff.mp hword
    rw [htokens, List.tail_cons] at hvs
    rcases Language.lookup_builtin hi with ⟨hset, rfl⟩ | ⟨hadd, rfl⟩
    · obtain ⟨t, u, i, v, hrest, rfl, hindex, hvalue⟩ := Instruction.setWith_readOperands hvs
      obtain ⟨index, value, rfl, rfl, rfl⟩ :
          ∃ index value, rest = [index, value] ∧ t = some index ∧ u = some value := by
        match rest, hrest with
        | [index, value], hrest =>
          cases hrest
          exact ⟨index, value, rfl, rfl, rfl⟩
      have hmem : index ∈ Line.tokens '#' line ∧ value ∈ Line.tokens '#' line := by simp [htokens]
      have hi := number_of_read hmem.1 hindex
      have hv := number_of_read hmem.2 hvalue
      have hassigns (r : Int) : assigns r line = if i = r then some v else none := by
        simp [assigns, htokens, hset, hi, hv]
      have hadd : isAdd line = false := by rw [isAdd, htokens]
      have hbounds : 0 ≤ i ∧ i ≤ 1 := OperandType.bounds_of_read hindex
      obtain rfl | rfl : i = 0 ∨ i = 1 := by omega
      · simp [hassigns, hadd, Statement.apply, Instruction.setWith]
      · simp [hassigns, hadd, Statement.apply, Instruction.setWith]
    · obtain ⟨hrest, rfl⟩ := Instruction.add_readOperands hvs
      obtain rfl := List.map_eq_nil_iff.mp hrest
      have hadd' : isAdd line = true := by simp [isAdd, htokens, hadd]
      simp [hadd', assigns_of_isAdd hadd', Statement.apply, Instruction.add]

/-- The registers after accepted lines, which may be blank. -/
theorem registers_eq {ls : List String}
    (h : ∀ line ∈ ls, standardLanguage.accepts line = true) :
    (standardLanguage.statements ls).foldl (fun rs s => s.apply rs) [0, 0] =
      [total ls, lastAssigned 1 ls] := by
  induction ls using List.reverseRecOn with
  | nil => rfl
  | append_singleton ls line ih =>
    have hfront : ∀ f ∈ ls, standardLanguage.accepts f = true :=
      fun f hf => h f (List.mem_append_left _ hf)
    obtain ⟨slot, hslot⟩ := Language.accepts_iff.mp (h line (by simp))
    rw [Language.statements_append, Language.statements_cons hslot, List.foldl_append, ih hfront,
      total_append, lastAssigned_append]
    cases slot with
    | none =>
      have hmark : Text.isBlank '#' = false := by decide
      have hblank := (Language.assembleLine_builtin_blank_iff 1 line).mp hslot
      exact (apply_of_no_tokens ((Line.isBlank_iff hmark line).mp hblank).1 _ _).symm
    | some s => exact apply_eq ((Language.assembleLine_eq_some_iff _ _ _).mp hslot) _ _

/-! ## Executed lines -/

/-- The lines in front of the first rejected one that are not blank. -/
def executed (source : String) : List String :=
  ((Text.lines source).takeWhile standardLanguage.accepts).filter fun line =>
    !decide (Text.IsBlank line)

theorem statements_filter (ls : List String) :
    standardLanguage.statements (ls.filter fun line => !decide (Text.IsBlank line)) =
      standardLanguage.statements ls := by
  unfold Language.statements
  rw [List.filterMap_filter]
  apply List.filterMap_congr
  intro line _
  by_cases hblank : Text.IsBlank line
  · rw [Machine.standardLanguage_eq, (Language.assembleLine_builtin_blank_iff 1 line).mpr hblank]
    simp [Except.toOption]
  · simp [hblank]

/-- Lines that are accepted and not blank have a statement each. -/
theorem statements_cons_of_not_blank {line : String}
    (h : standardLanguage.accepts line = true ∧ ¬ Text.IsBlank line) :
    ∃ s, s.text = some line ∧ ∀ rest, standardLanguage.statements (line :: rest) =
      s :: standardLanguage.statements rest := by
  obtain ⟨slot, hslot⟩ := Language.accepts_iff.mp h.1
  cases slot with
  | none => exact absurd ((Language.assembleLine_builtin_blank_iff 1 line).mp hslot) h.2
  | some s =>
    have hs := ((Language.assembleLine_eq_some_iff _ _ _).mp hslot).builtin
    exact ⟨s, hs.2, Language.statements_cons hslot⟩

section
variable {ls : List String}
  (h : ∀ line ∈ ls, standardLanguage.accepts line = true ∧ ¬ Text.IsBlank line)
include h

/-- Every statement keeps the line it was made from. -/
theorem text_statements : (standardLanguage.statements ls).map Statement.text = ls.map some := by
  induction ls with
  | nil => rfl
  | cons line ls ih =>
    obtain ⟨s, htext, hs⟩ := statements_cons_of_not_blank (h line List.mem_cons_self)
    rw [hs, List.map_cons, List.map_cons, htext, ih fun f hf => h f (List.mem_cons_of_mem _ hf)]

theorem length_statements : (standardLanguage.statements ls).length = ls.length := by
  simpa using congrArg List.length (text_statements h)

theorem statements_take (k : Nat) :
    standardLanguage.statements (ls.take k) =
      (standardLanguage.statements ls).take k := by
  induction ls generalizing k with
  | nil => simp [Language.statements]
  | cons line ls ih =>
    obtain ⟨s, -, hs⟩ := statements_cons_of_not_blank (h line List.mem_cons_self)
    have hrest := ih fun f hf => h f (List.mem_cons_of_mem _ hf)
    cases k with
    | zero => rfl
    | succ k => rw [List.take_succ_cons, hs, hs, List.take_succ_cons, hrest]

end

/-! ## Output -/

def entry (ls : List String) : String :=
  "[" ++ Decimal.text (total ls) ++ "] [" ++ Decimal.text (lastAssigned 1 ls) ++ "]"

theorem text_pair (a b : Int) :
    Registers.text [a, b] = "[" ++ Decimal.text a ++ "] [" ++ Decimal.text b ++ "]" := by
  rw [← String.toList_inj]
  simp [Registers.text, Text.joined, List.intercalate]

theorem output_foldl_note_eq (source : String) (trace : Bool) {ls : List String}
    (h : ∀ line ∈ ls, standardLanguage.accepts line = true ∧ ¬ Text.IsBlank line) :
    ((standardLanguage.statements ls).foldl Program.note
        (Program.ofText source trace)).output =
      (List.range ls.length).map fun k => entry (ls.take (k + 1)) := by
  have hstart : (Program.ofText source trace).machine.registers = [0, 0] := rfl
  rw [Program.output_foldl_note, length_statements h]
  apply List.map_congr_left
  intro k _
  have hfront : ∀ line ∈ ls.take (k + 1), standardLanguage.accepts line = true :=
    fun line hline => (h line (List.mem_of_mem_take hline)).1
  rw [Machine.registers_foldl_advance, hstart, ← statements_take h, registers_eq hfront, text_pair,
    entry]

theorem registers_foldl_note_eq (source : String) (trace : Bool) {ls : List String}
    (h : ∀ line ∈ ls, standardLanguage.accepts line = true) :
    ((standardLanguage.statements ls).foldl Program.note
        (Program.ofText source trace)).machine.registers = [total ls, lastAssigned 1 ls] := by
  rw [Program.machine_foldl_note, Machine.registers_foldl_advance]
  exact registers_eq h

def rejection (ls : List String) : Option Diagnostic :=
  ls.findSome? fun line : String =>
    match standardLanguage.assembleLine (some line) with
    | .error d => some d
    | .ok _ => none

/-- The last entry of a program. -/
def verdict (ls : List String) : String :=
  match rejection ls with
  | none => "HALT"
  | some d => "ERROR: " ++ d.detail

theorem rejection_of_accepted {ls : List String}
    (h : ∀ line ∈ ls, standardLanguage.accepts line = true) : rejection ls = none := by
  unfold rejection
  rw [List.findSome?_eq_none_iff]
  intro line hline
  obtain ⟨slot, hslot⟩ := Language.accepts_iff.mp (h line hline)
  rw [hslot]

theorem rejection_append {front : List String} {line : String} {d : Diagnostic}
    (h : ∀ line ∈ front, standardLanguage.accepts line = true)
    (hd : standardLanguage.assembleLine line = .error d) (rest : List String) :
    rejection (front ++ line :: rest) = some d := by
  have hfront := rejection_of_accepted h
  unfold rejection at hfront ⊢
  rw [List.findSome?_append, hfront, List.findSome?_cons, hd]
  rfl

theorem accepts_of_mem_executed {source line : String} (h : line ∈ executed source) :
    standardLanguage.accepts line = true ∧ ¬ Text.IsBlank line := by
  obtain ⟨hmem, hblank⟩ := List.mem_filter.mp h
  exact ⟨List.mem_takeWhile_imp hmem, by simpa using hblank⟩

/-- The executed lines have the statements of all lines in front of the first rejected one. -/
theorem statements_executed {source : String} {front rest : List String}
    (hsource : Text.lines source = front ++ rest)
    (h : ∀ line ∈ front, standardLanguage.accepts line = true)
    (hrest : ∀ line ∈ rest.head?, standardLanguage.accepts line = false) :
    standardLanguage.statements (executed source) =
      standardLanguage.statements front := by
  have htake : (Text.lines source).takeWhile standardLanguage.accepts = front := by
    rw [hsource, List.takeWhile_append_of_pos h]
    cases rest with
    | nil => simp
    | cons line rest => simp [hrest line rfl]
  rw [executed, statements_filter, htake]

/-- The output of a program as a function of its source: the registers after each executed line,
and then how the program ended. -/
theorem runText_output_eq (source : String) (trace : Bool)
    (hn : (Text.lines source).length < 10 ^ 4000) :
    ∃ p log, Program.runText source trace = ⟨p, log, .ok ()⟩ ∧
      p.output = ((List.range (executed source).length).map fun k =>
        entry ((executed source).take (k + 1))) ++ [verdict (Text.lines source)] ∧
      p.machine.registers = [total (executed source), lastAssigned 1 (executed source)] := by
  have hexecuted : ∀ line ∈ executed source,
      standardLanguage.accepts line = true ∧ ¬ Text.IsBlank line := by
    intro line hline
    obtain ⟨hmem, hblank⟩ := List.mem_filter.mp hline
    exact ⟨List.mem_takeWhile_imp hmem, by simpa using hblank⟩
  have houtput := output_foldl_note_eq source trace hexecuted
  have hregisters := registers_foldl_note_eq source trace fun line hline =>
    (hexecuted line hline).1
  rcases standardLanguage.accepted_or_rejected (Text.lines source) with
    h | ⟨front, line, rest, d, hsource, h, hd⟩
  · obtain ⟨log, hrun⟩ := Program.runText_of_accepted trace h hn
    rw [statements_executed (List.append_nil _).symm h (by simp)] at houtput hregisters
    refine ⟨_, log, hrun, ?_, hregisters⟩
    rw [Program.say, houtput, verdict, rejection_of_accepted h]
  · obtain ⟨log, hrun⟩ := Program.runText_of_rejected trace hsource h hd hn
    have hline : standardLanguage.accepts line = false :=
      Language.accepts_eq_false_iff.mpr ⟨d, hd⟩
    rw [statements_executed hsource h (by simpa using hline)] at houtput hregisters
    refine ⟨_, log, hrun, ?_, hregisters⟩
    rw [Program.say, houtput, verdict, hsource, rejection_append h hd]

/-- The second `SET` of register 0 forgets the first `ADD`, and the last `ADD` is never reached. -/
theorem runText_output_restart :
    (Text.lines "SET 1 7\nadd\n\nSET 0 1 # again\nADD\nJUMP\nADD").length < 10 ^ 4000 ∧
      ∃ p log, Program.runText "SET 1 7\nadd\n\nSET 0 1 # again\nADD\nJUMP\nADD" false =
          ⟨p, log, .ok ()⟩ ∧
        p.output = ["[0] [7]", "[7] [7]", "[1] [7]", "[8] [7]", "ERROR: Unknown instruction"] ∧
        p.machine.registers = [8, 7] := by
  have hn : (Text.lines "SET 1 7\nadd\n\nSET 0 1 # again\nADD\nJUMP\nADD").length < 10 ^ 4000 :=
    Decimal.lt_ten_pow (by decide)
  obtain ⟨p, log, hrun, houtput, hregisters⟩ := runText_output_eq _ false hn
  refine ⟨hn, p, log, hrun, houtput.trans ?_, hregisters.trans ?_⟩
  · decide
  · decide

end RegisterMachine.History
