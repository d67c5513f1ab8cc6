import RegisterMachine.Proofs.History
import RegisterMachine.Proofs.Numeral

/-!
# Traces and outputs

A traced program writes down each executed statement twice: the machine keeps a line in its trace
when it executes the statement, and the program adds the registers to its output when the machine is
at rest again. `Program.Traced p ss` says how the two go together after the statements `ss`; each
further statement keeps to it (`Traced.note`). As no line of a trace has a line feed in it, the text
of the trace can be cut back into its lines, and they match the output one by one
(`runText_trace_eq_output`).
-/

namespace RegisterMachine

open Machine (standardLanguage)

/-! ## Texts without a line feed -/

theorem Text.notMem_trimmed {c : Char} {s : String} (h : c ∉ s.toList) :
    c ∉ (trimmed s).toList := by
  rw [trimmed, String.toList_ofList, trim, trimEnd, trimStart, List.mem_reverse]
  intro hmem
  have hstart := List.mem_reverse.mp ((List.dropWhile_sublist _).mem hmem)
  exact h ((List.dropWhile_sublist _).mem hstart)

theorem Decimal.newline_notMem_zeroPadded (width n : Nat) :
    '\n' ∉ (zeroPadded width n).toList := by
  rw [zeroPadded, String.toList_ofList, List.mem_append, not_or]
  refine ⟨fun hzero => ?_, fun hdigit => ?_⟩
  · cases List.eq_of_mem_replicate hzero
  · cases isDigit_of_mem_digits hdigit

theorem Registers.newline_notMem_text (registers : List Int) :
    '\n' ∉ (text registers).toList := by
  refine Text.notMem_joined (by decide) fun part hpart => ?_
  obtain ⟨v, -, rfl⟩ := List.mem_map.mp hpart
  have hv : '\n' ∉ (Decimal.text v).toList := by
    rw [Decimal.text, String.toList_ofList]
    intro hmem
    rcases Decimal.mem_chars hmem with h | h <;> cases h
  simpa using hv

/-! ## One line for each statement -/

namespace Program

/-- The trace line of a statement at position `k`, made from `line` and answered by `entry`. -/
def traceLine (k : Nat) (line entry : String) : String :=
  Decimal.zeroPadded 4 k ++ ": " ++ Text.trimmed line ++ " -> " ++ entry

theorem newline_notMem_traceLine (k : Nat) {line entry : String} (hline : '\n' ∉ line.toList)
    (hentry : '\n' ∉ entry.toList) : '\n' ∉ (traceLine k line entry).toList := by
  have hindex := Decimal.newline_notMem_zeroPadded 4 k
  have htrim := Text.notMem_trimmed hline
  simp [traceLine, hindex, htrim, hentry]

/-- The trace of a program that has noted the statements `ss`: a line for each of them, with its
position and its entry in the output. -/
structure Traced (p : Program) (ss : List Statement) : Prop where
  tracing : p.machine.tracing = true
  pc : p.machine.pc = ss.length
  count : p.machine.count = ss.length
  entries : p.output.length = ss.length
  oneLine : ∀ entry ∈ p.output, '\n' ∉ entry.toList
  lines : p.machine.trace.map Execution.traceLine =
    (ss.zip p.output).mapIdx fun k q => traceLine k (q.1.text.getD "") q.2

theorem traced_ofText (source : String) : (ofText source true).Traced [] :=
  ⟨rfl, rfl, rfl, rfl, by simp [ofText], rfl⟩

theorem Traced.note {p : Program} {ss : List Statement} (h : p.Traced ss) (s : Statement) :
    (p.note s).Traced (ss ++ [s]) where
  tracing := h.tracing
  pc := by
    have hpc : (p.note s).machine.pc = p.machine.pc + 1 := rfl
    rw [hpc, h.pc]
    simp
  count := by
    have hcount : (p.note s).machine.count = p.machine.count + 1 := Machine.count_store _ [s]
    rw [hcount, h.count]
    simp
  entries := by
    have houtput : (p.note s).output.length = p.output.length + 1 := List.length_append
    rw [houtput, h.entries]
    simp
  oneLine entry hentry := by
    rcases List.mem_append.mp hentry with hentry | hentry
    · exact h.oneLine entry hentry
    · rw [List.mem_singleton.mp hentry]
      exact Registers.newline_notMem_text _
  lines := by
    have htrace : (p.note s).machine.trace = p.machine.trace ++
        [⟨p.machine.pc, s.text.getD "", (p.machine.advance s).registers⟩] := if_pos h.tracing
    have houtput : (p.note s).output = p.output ++
        [Registers.text (p.machine.advance s).registers] := rfl
    have hzip : (ss ++ [s]).zip (p.note s).output = ss.zip p.output ++
        [(s, Registers.text (p.machine.advance s).registers)] := by
      rw [houtput, List.zip_append h.entries.symm]
      rfl
    have hlength : (ss.zip p.output).length = ss.length := by simp [h.entries]
    rw [htrace, List.map_append, h.lines, hzip, List.mapIdx_concat, hlength]
    simp [Execution.traceLine, Execution.index, traceLine, h.pc]

theorem traced_foldl_note (source : String) (ss : List Statement) :
    (ss.foldl note (ofText source true)).Traced ss := by
  induction ss using List.reverseRecOn with
  | nil => exact traced_ofText source
  | append_singleton ss s ih =>
    rw [List.foldl_append]
    exact ih.note s

namespace Traced

variable {p : Program} {ss : List Statement} (h : p.Traced ss)
include h

theorem length_trace : p.machine.trace.length = ss.length := by
  simpa [h.entries] using congrArg List.length h.lines

theorem traceText_of_nil (hss : ss = []) : p.machine.traceText = "" := by
  have hnone : p.machine.trace = [] := by
    rw [← List.length_eq_zero_iff, h.length_trace, hss]
    rfl
  rw [Machine.traceText, hnone]
  rfl

variable (hlines : ∀ s ∈ ss, '\n' ∉ (s.text.getD "").toList)
include hlines

theorem lines_traceText :
    Text.lines p.machine.traceText =
      if ss = [] then [""] else p.machine.trace.map Execution.traceLine := by
  have hfree : ∀ line ∈ p.machine.trace.map Execution.traceLine, '\n' ∉ line.toList := by
    intro line hline
    rw [h.lines] at hline
    obtain ⟨k, hk, rfl⟩ := List.mem_mapIdx.mp hline
    obtain ⟨hs, hentry⟩ := List.of_mem_zip (List.getElem_mem hk)
    exact newline_notMem_traceLine k (hlines _ hs) (h.oneLine _ hentry)
  have hempty : p.machine.trace.map Execution.traceLine = [] ↔ ss = [] := by
    rw [← List.length_eq_zero_iff, List.length_map, h.length_trace, List.length_eq_zero_iff]
  rw [Machine.traceText, Text.lines_joined hfree]
  simp only [hempty]

theorem length_lines_traceText (hne : ss ≠ []) :
    (Text.lines p.machine.traceText).length = ss.length := by
  rw [h.lines_traceText hlines, if_neg hne, List.length_map, h.length_trace]

theorem lines_traceText_getElem? {k : Nat} {s : Statement} (hk : ss[k]? = some s) :
    ∃ entry, p.output[k]? = some entry ∧
      (Text.lines p.machine.traceText)[k]? = some (traceLine k (s.text.getD "") entry) := by
  obtain ⟨hlt, -⟩ := List.getElem?_eq_some_iff.mp hk
  have hentry : p.output[k]? = some (p.output.get ⟨k, h.entries ▸ hlt⟩) := by simp
  have hzip : (ss.zip p.output)[k]? = some (s, p.output.get ⟨k, h.entries ▸ hlt⟩) :=
    List.getElem?_zip_eq_some.mpr ⟨hk, hentry⟩
  have hne : ss ≠ [] := List.ne_nil_of_mem (List.mem_of_getElem? hk)
  refine ⟨_, hentry, ?_⟩
  rw [h.lines_traceText hlines, if_neg hne, h.lines, List.getElem?_mapIdx, hzip, Option.map_some]

end Traced

end Program

/-! ## Source texts -/

def Text.writtenLines (source : String) : List String :=
  (lines source).filter fun line => !decide (IsBlank line)

namespace Program

/-- What a program executes are the first of its lines that are not blank, one statement each. -/
theorem text_executed {source : String} {k : Nat} {s : Statement}
    (h : (standardLanguage.statements
      ((Text.lines source).takeWhile standardLanguage.accepts))[k]? = some s) :
    ∃ line, (Text.writtenLines source)[k]? = some line ∧ s.text = some line := by
  have hfront : History.executed source <+: Text.writtenLines source :=
    (List.takeWhile_prefix _).filter _
  have htexts : (standardLanguage.statements (History.executed source)).map Statement.text =
      (History.executed source).map some :=
    History.text_statements fun _ => History.accepts_of_mem_executed
  have htext := congrArg (·[k]?) htexts
  rw [← History.statements_filter] at h
  rw [History.executed] at htext
  simp only [List.getElem?_map, h, Option.map_some] at htext
  obtain ⟨line, hline, htext⟩ := Option.map_eq_some_iff.mp htext.symm
  obtain ⟨hk, rfl⟩ := List.getElem?_eq_some_iff.mp hline
  exact ⟨_, List.prefix_iff_getElem?.mp hfront k hk, htext.symm⟩

/-- The trace of a program and its output agree one to one: as many lines as entries without the
last one, and as stored statements. Each line has its number, the source line of its statement and
the entry. A program without statements has an empty trace. -/
theorem runText_trace_eq_output (source : String) (hn : (Text.lines source).length < 10 ^ 4000) :
    ∃ p log, runText source true = ⟨p, log, .ok ()⟩ ∧
      p.output.length = p.machine.trace.length + 1 ∧
      p.machine.count = p.machine.trace.length ∧
      (p.machine.count = 0 → p.machine.traceText = "") ∧
      (p.machine.count ≠ 0 → (Text.lines p.machine.traceText).length = p.machine.count) ∧
      ∀ k < p.machine.count, ∃ line entry,
        (Text.writtenLines source)[k]? = some line ∧ p.output[k]? = some entry ∧
        (Text.lines p.machine.traceText)[k]? =
          some (Decimal.zeroPadded 4 k ++ ": " ++ Text.trimmed line ++ " -> " ++ entry) := by
  obtain ⟨log, hrun⟩ := run_eq_settle (p := ofText source true) rfl (awaits_ofText source true)
    (by rwa [Nat.zero_add])
  have htexts := @text_executed source
  rw [show (ofText source true).input = Text.lines source from rfl] at hrun
  generalize standardLanguage.statements
    ((Text.lines source).takeWhile standardLanguage.accepts) = ss at hrun htexts
  have htraced := traced_foldl_note source ss
  have hfree : ∀ s ∈ ss, '\n' ∉ (s.text.getD "").toList := by
    intro s hs
    obtain ⟨k, hk⟩ := List.getElem?_of_mem hs
    obtain ⟨line, hline, htext⟩ := htexts hk
    have hmem := (List.mem_filter.mp (List.mem_of_getElem? hline)).1
    rw [htext]
    exact Text.newline_notMem_of_mem_lines hmem
  generalize ss.foldl note (ofText source true) = p at hrun htraced
  have hcount := htraced.count
  refine ⟨p.settle _, log, hrun, ?_⟩
  simp only [machine_settle, output_settle]
  refine ⟨?_, hcount.trans htraced.length_trace.symm, ?_, ?_, ?_⟩
  · rw [List.length_append, htraced.entries, htraced.length_trace]
    rfl
  · intro hzero
    exact htraced.traceText_of_nil (List.length_eq_zero_iff.mp (hcount.symm.trans hzero))
  · intro hsome
    rw [hcount] at hsome ⊢
    exact htraced.length_lines_traceText hfree (mt List.length_eq_zero_iff.mpr hsome)
  · intro k hk
    rw [hcount] at hk
    have hs : ss[k]? = some ss[k] := List.getElem?_eq_getElem hk
    obtain ⟨line, hline, htext⟩ := htexts hs
    obtain ⟨entry, hentry, htrace⟩ := htraced.lines_traceText_getElem? hfree hs
    rw [htext, Option.getD_some] at htrace
    refine ⟨line, entry, hline, ?_, htrace⟩
    rw [List.getElem?_append_left (by rwa [htraced.entries]), hentry]

/-- The second line of a trace, with the blanks around its source line gone. The program has ended
at the line after it. -/
theorem runText_trace_eq_output_stopped :
    (Text.lines "set 1 7\n\n  ADD # once \nJUMP\nADD").length < 10 ^ 4000 ∧
      ∃ p log, runText "set 1 7\n\n  ADD # once \nJUMP\nADD" true = ⟨p, log, .ok ()⟩ ∧
        p.output = ["[0] [7]", "[7] [7]", "ERROR: Unknown instruction"] ∧
        p.machine.trace.length = 2 ∧ (Text.lines p.machine.traceText).length = 2 ∧
        (Text.lines p.machine.traceText)[1]? = some "0001: ADD # once -> [7] [7]" := by
  have hn : (Text.lines "set 1 7\n\n  ADD # once \nJUMP\nADD").length < 10 ^ 4000 :=
    Decimal.lt_ten_pow (by decide)
  obtain ⟨p, log, hrun, houtput, hcount, -, hlines, hline⟩ := runText_trace_eq_output _ hn
  have hentries : p.output = ["[0] [7]", "[7] [7]", "ERROR: Unknown instruction"] := by
    rw [← show (runText "set 1 7\n\n  ADD # once \nJUMP\nADD" true).state = p by rw [hrun]]
    decide +kernel
  have htwo : p.machine.trace.length = 2 := by
    rw [hentries] at houtput
    exact Nat.succ.inj houtput.symm
  have hcount : p.machine.count = 2 := hcount.trans htwo
  obtain ⟨line, entry, hsource, hentry, htrace⟩ := hline 1 (by omega)
  obtain rfl : "  ADD # once " = line := Option.some.inj (Eq.trans (by decide) hsource)
  obtain rfl : "[7] [7]" = entry := by
    rw [hentries] at hentry
    exact Option.some.inj hentry
  have hlength := hlines (by omega)
  exact ⟨hn, p, log, hrun, hentries, htwo, hlength.trans hcount, htrace.trans (by decide)⟩

end Program

end RegisterMachine
