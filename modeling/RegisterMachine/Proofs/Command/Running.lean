import RegisterMachine.Proofs.Command.Console
import RegisterMachine.Proofs.Text.Blocks
import RegisterMachine.Proofs.TraceLines
import RegisterMachine.Proofs.Transparency

/-!
# Running a source from the command line

A run prints the output of the program and ends with exit code 0 exactly if every line was accepted;
otherwise it names the first line that was not, after a warning on the console
(`serve_run_reports`). Where a text comes from makes no difference, but a file and standard input
may make different texts of the same bytes (`serve_run_warns`). A trace is only added at the end.
-/

namespace RegisterMachine

open Machine (standardLanguage)

/-! ## What a finished program says -/

theorem Diagnostic.Kind.newline_notMem_summary (k : Kind) : '\n' ∉ k.summary.toList := by
  cases k <;> decide

theorem Diagnostic.Plain.newline_notMem_detail {d : Diagnostic} (h : d.Plain) :
    '\n' ∉ d.detail.toList := by
  rw [h]
  exact d.kind.newline_notMem_summary

theorem Decimal.fits_lineNum {front rest : List String} {line : String}
    (hn : (front ++ line :: rest).length < 10 ^ 4000) : Fits (1 + front.length : Nat) := by
  rw [List.length_append, List.length_cons] at hn
  exact fits_natCast (by omega)

theorem Language.complaint?_cases (l : Language) {ls : List String} (hn : ls.length < 10 ^ 4000) :
    ((∀ line ∈ ls, l.accepts line = true) ∧ l.complaint? ls = none) ∨
      ∃ (front : List String) (line : String) (rest : List String) (d : Diagnostic),
        ls = front ++ line :: rest ∧ (∀ line ∈ front, l.accepts line = true) ∧
        l.assembleLine line = .error d ∧
        l.complaint? ls =
          some { d with lineNum := (1 + front.length : Nat), lineText := line } := by
  rcases l.accepted_or_rejected ls with h | ⟨front, line, rest, d, rfl, h, hd⟩
  · exact .inl ⟨h, complaint?_of_accepted h⟩
  · exact .inr ⟨front, line, rest, d, rfl, h, hd,
      complaint?_of_rejected h hd (Decimal.fits_lineNum hn) rest⟩

namespace Program

theorem ending_eq_halt_iff {e : Option Diagnostic} : ending e = "HALT" ↔ e = none := by
  cases e with
  | none => simp [ending]
  | some d =>
    simp only [ending, reduceCtorEq, iff_false]
    intro h
    have hlist := congrArg String.toList h
    simp at hlist

/-- A program that has run to its end or to the rejected line `e`. -/
structure Reports (p : Program) (e : Option Diagnostic) : Prop where
  error : p.error = e
  last : p.output.getLast? = some (ending e)
  oneLine : ∀ entry ∈ p.output, '\n' ∉ entry.toList

theorem exists_reports_runText {source : String} (trace : Bool)
    (hn : (Text.lines source).length < 10 ^ 4000) :
    ∃ p log, runText source trace = ⟨p, log, .ok ()⟩ ∧
      p.Reports (standardLanguage.complaint? (Text.lines source)) := by
  obtain ⟨log, hrun⟩ := run_eq_settle (p := ofText source trace) rfl (awaits_ofText source trace)
    (by rwa [Nat.zero_add])
  have hinput : (ofText source trace).input = Text.lines source := rfl
  have hnew : (ofText source trace).output = [] := rfl
  rw [hinput] at hrun
  refine ⟨_, log, hrun, ?_, ?_, ?_⟩
  · rw [error_settle, error_foldl_note]
    exact Option.or_none
  · rw [output_settle, List.getLast?_concat]
  · intro entry hentry
    rw [output_settle, output_foldl_note, hnew, List.nil_append] at hentry
    rcases List.mem_append.mp hentry with hentry | hentry
    · obtain ⟨k, -, rfl⟩ := List.mem_map.mp hentry
      exact Registers.newline_notMem_text _
    · rw [List.mem_singleton.mp hentry]
      rcases standardLanguage.complaint?_cases hn with ⟨-, hnone⟩ | ⟨_, _, _, d, -, -, hd, hsome⟩
      · rw [hnone]
        decide
      · have hdetail := (Language.plain_of_assembleLine hd).newline_notMem_detail
        rw [hsome]
        simpa [ending] using hdetail

theorem exists_runText_pair {source : String} (hn : (Text.lines source).length < 10 ^ 4000) :
    ∃ p q log, runText source false = ⟨p, log, .ok ()⟩ ∧ runText source true = ⟨q, log, .ok ()⟩ ∧
      p = q.untraced ∧ p.Reports (standardLanguage.complaint? (Text.lines source)) := by
  obtain ⟨p, log, hplain, hreports⟩ := exists_reports_runText false hn
  obtain ⟨q, log', htraced, -⟩ := exists_reports_runText true hn
  have hsame := runText_untraced source true
  rw [hplain, htraced] at hsame
  cases hsame
  exact ⟨_, q, log', hplain, htraced, rfl, hreports⟩

end Program

namespace Command

open Log (Hub)
open Text (Lined)

/-! ## Sources -/

/-- A source named `input` can be had. -/
inductive Supplies (h : Hub) (stdin : Text.Input) : String → Text.Input → Prop
  | stdin : Supplies h stdin "-" stdin
  | file {name : String} {file : Files.File} (hname : name.toList.head? ≠ some '-')
      (hopen : h.tree.openSource name = .ok file) :
      Supplies h stdin name ⟨file.bytes h.stamp, .unified⟩

section
variable {h : Hub} {stdin source : Text.Input} {input text : String}
  (hsource : Supplies h stdin input source)
include hsource

theorem Supplies.plain : Plain input := by
  cases hsource with
  | stdin => exact .inl rfl
  | file hname => exact .inr hname

theorem Supplies.openInput_eq : openInput h stdin input = .ok source := by
  cases hsource with
  | stdin => exact openInput_stdin h stdin
  | file hname hopen =>
    have hne : input ≠ "-" := by
      rintro rfl
      exact hname rfl
    exact openInput_of_file hne hopen stdin

theorem Supplies.sourceText_eq (htext : source.text? = some text) :
    sourceText (openInput h stdin input) = .ok text := by
  rw [hsource.openInput_eq, sourceText_ok, htext, Option.elim_some]

end

/-- The same bytes make the same text if there is no carriage return in it. -/
theorem text?_of_bytes_eq {source source' : Text.Input} {text : String}
    (htext : String.fromUTF8? source.bytes = some text) (hreturn : '\r' ∉ text.toList)
    (hbytes : source'.bytes = source.bytes) : source'.text? = source.text? := by
  rw [Text.Input.text?_of_valid htext, Text.Input.text?_of_valid (hbytes ▸ htext),
    Text.Breaks.read_of_notMem _ hreturn, Text.Breaks.read_of_notMem _ hreturn]

/-! ## Answers -/

def exitCode (e : Option Diagnostic) : Int := if e.isNone then 0 else 1

theorem ok_exitCode_eq_zero_iff {e : Option Diagnostic} :
    (Except.ok (exitCode e) : Except Escape Int) = .ok 0 ↔ e = none := by
  cases e <;> simp [exitCode]

def complaint (input : String) : Option Diagnostic → String
  | none => ""
  | some d => input ++ ": " ++ d.message ++ "\n"

theorem complaint_at_line (input : String) (d : Diagnostic) {n : Nat} (hn : n ≠ 0)
    (line : String) :
    complaint input (some { d with lineNum := n, lineText := line }) =
      input ++ ": Line " ++ Decimal.text n ++ ": " ++ d.detail ++ "\n" := by
  have hline : (n : Int) ≠ 0 := by omega
  have hprefix : ": " ++ "Line " = ": Line " := rfl
  simp only [complaint, Diagnostic.message, if_neg hline, ← hprefix, String.append_assoc]

theorem runSource_eq (h : Hub) (input : String) {source : String} {trace : Bool} {p : Program}
    {log : List Event} (hrun : Program.runText source trace = ⟨p, log, .ok ()⟩) :
    runSource h input trace source =
      ⟨.ok (exitCode p.error), programText p trace, complaint input p.error,
        logAll (h.emit logger Log.Level.info ("Running " ++ input)) log⟩ := by
  simp only [runSource, hrun]
  cases p.error with
  | none => rfl
  | some d => rfl

section
variable {h : Hub} {stdin source : Text.Input} {input text : String}
  (hsource : Supplies (ready h) stdin input source) (htext : source.text? = some text)
  {args : List String} {trace : Bool}
  (hargs : Request.parse args = .ok (.serve 0 none (.run input trace))) {p : Program}
  {log : List Event} (hrun : Program.runText text trace = ⟨p, log, .ok ()⟩)
include hsource htext hargs hrun

/-- A source that can be had is run, whatever has been logged before. -/
theorem serve_run_eq :
    serve args stdin h =
      ⟨.ok (exitCode p.error), programText p trace, complaint input p.error,
        logAll ((ready h).emit logger Log.Level.info ("Running " ++ input)) log⟩ := by
  rw [serve_of_ready hargs, serveTask, serveRun, serveInput, hsource.sourceText_eq htext]
  exact runSource_eq (ready h) input hrun

/-- A run that meets the rejected line `e` warns about it on the console and then names it. -/
theorem serve_run_answers {e : Option Diagnostic} (herror : p.error = e) :
    (serve args stdin h).result = .ok (exitCode e) ∧
      (serve args stdin h).stderr = complaint input e ∧
      (h.Silent → ∀ rs : List Log.Record, (e.map Program.stopRecord).toList.filter h.admits = rs →
        (serve args stdin h).hub.console = h.console ++ rs ∧
          ∀ render, (serve args stdin h).standardError render h =
            String.join (rs.map render) ++ (serve args stdin h).stderr) := by
  have hserve := serve_run_eq hsource htext hargs hrun
  subst herror
  refine ⟨by rw [hserve], by rw [hserve], fun hs rs hrs => ?_⟩
  have hconsole := console_serve_run hs hargs (hsource.sourceText_eq htext)
  rw [hrun, Program.warnings_runText hrun, hrs] at hconsole
  exact ⟨hconsole, fun render => by rw [Response.standardError, consoleText_eq render hconsole]⟩

end

/-! ## Lines of output -/

theorem lined_printed {ls : List String} (h : ∀ line ∈ ls, '\n' ∉ line.toList) :
    Lined (printed ls) ls := by
  induction ls with
  | nil => exact .nil
  | cons line ls ih =>
    obtain ⟨hline, hls⟩ := List.forall_mem_cons.mp h
    have hprinted : printed (line :: ls) = line ++ "\n" ++ printed ls := by
      simp [printed, String.append_assoc]
    rw [hprinted]
    exact .cons hline (ih hls)

/-- A source of UTF-8 text is run and reported on. Standard output has the entries of the program's
output, one for each line. If all lines are accepted, the exit code is 0 and nothing is said; if
not, it is 1, and the first rejected line is named with its number. The last line is `HALT` exactly
with exit code 0. A trace is printed after everything else and changes nothing else, and the same
text from any other source gives the same answer.

Where no logger had a handler, the set-up of the logger, after which the source is looked for,
touches no file, and standard error has in front of the error line what the console writes for the
one warning about that line. -/
theorem serve_run_reports {h : Hub} {stdin source : Text.Input} {input text : String}
    (hsource : Supplies (ready h) stdin input source)
    (htext : String.fromUTF8? source.bytes = some text)
    (hn : (Text.lines (source.breaks.read text)).length < 10 ^ 4000) :
    let ls := Text.lines (source.breaks.read text)
    let response := serve ["run", input] stdin h
    (h.Silent → (ready h).tree = h.tree ∧ (ready h).stamp = h.stamp) ∧
      ∃ p q log, Program.runText (source.breaks.read text) false = ⟨p, log, .ok ()⟩ ∧
        Program.runText (source.breaks.read text) true = ⟨q, log, .ok ()⟩ ∧
        response.stdout = printed p.output ∧ Lined response.stdout p.output ∧
        ((∀ line ∈ ls, standardLanguage.accepts line = true) →
          response.result = .ok 0 ∧ response.stderr = "" ∧
            (h.Silent → response.hub.console = h.console ∧
              ∀ render, response.standardError render h = "")) ∧
        (∀ (front : List String) (line : String) (rest : List String) (d : Diagnostic),
          ls = front ++ line :: rest →
          (∀ line ∈ front, standardLanguage.accepts line = true) →
          standardLanguage.assembleLine line = .error d →
          response.result = .ok 1 ∧
            response.stderr = input ++ ": Line " ++ Decimal.text (1 + front.length : Nat) ++ ": " ++
              d.detail ++ "\n" ∧
            (h.Silent → ∀ rs : List Log.Record,
              [⟨Log.Level.warning, "asmvm.program", "Program stopped at line " ++
                Decimal.text (1 + front.length : Nat) ++ ": " ++ d.detail⟩].filter h.admits = rs →
              response.hub.console = h.console ++ rs ∧
                ∀ render, response.standardError render h =
                  String.join (rs.map render) ++ response.stderr)) ∧
        (p.output.getLast? = some "HALT" ↔ response.result = .ok 0) ∧
        (∀ args, args = ["run", input, "--trace"] ∨ args = ["run", "--trace", input] →
          (serve args stdin h).result = response.result ∧
            (serve args stdin h).stderr = response.stderr ∧
            (serve args stdin h).hub = response.hub ∧
            (serve args stdin h).stdout =
              response.stdout ++ dashes ++ "\n" ++ q.machine.traceText ++ "\n") ∧
        ∀ h' stdin' input' source', Supplies (ready h') stdin' input' source' →
          source'.text? = source.text? ∨
            source'.bytes = source.bytes ∧ '\r' ∉ text.toList →
          (serve ["run", input'] stdin' h').stdout = response.stdout ∧
            (serve ["run", input'] stdin' h').result = response.result := by
  have hread := Text.Input.text?_of_valid htext
  obtain ⟨p, q, log, hplain, htraced, rfl, hreports⟩ := Program.exists_runText_pair hn
  have hresponse := serve_run_eq hsource hread (parse_run hsource.plain) hplain
  have hstdout : (serve ["run", input] stdin h).stdout = printed q.untraced.output := by
    rw [hresponse]
    exact String.append_empty
  refine ⟨ready_of_silent, _, q, log, hplain, htraced, hstdout, ?_, ?_, ?_, ?_, ?_, ?_⟩
  · rw [hstdout]
    exact lined_printed hreports.oneLine
  · intro haccepted
    have herror := hreports.error.trans (Language.complaint?_of_accepted haccepted)
    obtain ⟨hresult, hstderr, hall⟩ :=
      serve_run_answers hsource hread (parse_run hsource.plain) hplain herror
    refine ⟨hresult, hstderr, fun hs => ?_⟩
    have hnothing := hall hs [] rfl
    rw [hstderr] at hnothing
    simpa [complaint] using hnothing
  · intro front line rest d hlines hfront hd
    rw [hlines] at hn hreports
    have herror := hreports.error.trans
      (Language.complaint?_of_rejected hfront hd (Decimal.fits_lineNum hn) rest)
    obtain ⟨hresult, hstderr, hall⟩ :=
      serve_run_answers hsource hread (parse_run hsource.plain) hplain herror
    exact ⟨hresult, hstderr.trans (complaint_at_line input d (by omega) line), hall⟩
  · rw [hresponse, hreports.last, hreports.error, ok_exitCode_eq_zero_iff, Option.some_inj]
    exact Program.ending_eq_halt_iff
  · intro args hargs
    have hparse : Request.parse args = .ok (.serve 0 none (.run input true)) := by
      obtain ⟨hlast, hfirst⟩ := parse_run_trace hsource.plain
      rcases hargs with rfl | rfl
      · exact hlast
      · exact hfirst
    rw [serve_run_eq hsource hread hparse htraced, hresponse]
    refine ⟨rfl, rfl, rfl, ?_⟩
    simp [programText, printed, String.append_assoc, Program.untraced]
  · intro h' stdin' input' source' hsource' hsame
    have hread' : source'.text? = some (source.breaks.read text) := by
      rcases hsame with hsame | ⟨hbytes, hreturn⟩
      · exact hsame.trans hread
      · exact (text?_of_bytes_eq htext hreturn hbytes).trans hread
    rw [serve_run_eq hsource' hread' (parse_run hsource'.plain) hplain, hresponse]
    exact ⟨rfl, rfl⟩

/-- A file with a line that is rejected, between two others. -/
theorem serve_run_reports_rejected :
    ∃ h source, Supplies (ready h) .empty "prog.asm" source ∧
      String.fromUTF8? source.bytes = some "SET 1 5\r\nSUB 1\rADD" ∧ source.breaks = .unified ∧
      (Text.lines (source.breaks.read "SET 1 5\r\nSUB 1\rADD")).length < 10 ^ 4000 ∧
      (serve ["run", "prog.asm"] .empty h).result = .ok 1 ∧
      (serve ["run", "prog.asm"] .empty h).stdout = "[0] [5]\nERROR: Unknown instruction\n" ∧
      (serve ["run", "prog.asm"] .empty h).standardError (·.message ++ "\n") h =
        "Program stopped at line 2: Unknown instruction\n" ++
          "prog.asm: Line 2: Unknown instruction\n" := by
  have hn : (Text.lines (Text.Breaks.unified.read "SET 1 5\r\nSUB 1\rADD")).length < 10 ^ 4000 :=
    Decimal.lt_ten_pow (by decide)
  obtain ⟨h, bytes, hs, hadmits, hsource, htext⟩ : ∃ h bytes, h.Silent ∧
      (∀ r, h.admits ⟨Log.Level.warning, "asmvm.program", r⟩ = true) ∧
      Supplies (ready h) .empty "prog.asm" ⟨bytes, .unified⟩ ∧
      String.fromUTF8? bytes = some "SET 1 5\r\nSUB 1\rADD" :=
    ⟨.fresh ((Files.Tree.empty ["work"]).withFile "prog.asm" "SET 1 5\r\nSUB 1\rADD".toUTF8), _,
      ⟨rfl, fun l hl => nomatch hl⟩, fun r => rfl,
      @Supplies.file _ _ "prog.asm" _ (by decide) rfl,
      Text.fromUTF8?_eq_some_iff.mpr ByteArray.append_empty⟩
  have hlines : Text.lines (Text.Breaks.unified.read "SET 1 5\r\nSUB 1\rADD") =
      ["SET 1 5"] ++ "SUB 1" :: ["ADD"] := by decide +kernel
  have houtput : (Program.runText (Text.Breaks.unified.read "SET 1 5\r\nSUB 1\rADD")
      false).state.output = ["[0] [5]", "ERROR: Unknown instruction"] := by decide +kernel
  obtain ⟨-, p, -, log, hrun, -, hstdout, -, -, hrejected, -⟩ := serve_run_reports hsource htext hn
  obtain ⟨hresult, hstderr, hconsole⟩ := hrejected ["SET 1 5"] "SUB 1" ["ADD"]
    (.ofKind .unknownInstruction) hlines (by decide +kernel) rfl
  have hall := (hconsole hs _ rfl).2 (·.message ++ "\n")
  refine ⟨h, _, hsource, htext, rfl, hn, hresult, ?_, ?_⟩
  · dsimp only at hrun
    rw [hrun] at houtput
    rw [hstdout, houtput]
    decide
  · rw [hall, hstderr, List.filter_cons_of_pos (hadmits _), List.filter_nil]
    decide +kernel

/-- A rejected line puts more on standard error than the error line, whatever the console writes for
a record. And where standard input keeps a carriage return, it gives one line where a file gives
two. -/
theorem serve_run_warns :
    let h := Hub.fresh (((Files.Tree.empty ["work"]).withFile "prog.asm" "BAD\n".toUTF8).withFile
      "cr.asm" "SET 1 5\rADD".toUTF8)
    let response := serve ["run", "prog.asm"] .empty h
    response.stderr = "prog.asm: Line 1: Unknown instruction\n" ∧
      response.hub.console = [⟨Log.Level.warning, "asmvm.program",
        "Program stopped at line 1: Unknown instruction"⟩] ∧
      (∀ render, (∀ r, render r ≠ "") →
        response.standardError render h ≠ "prog.asm: Line 1: Unknown instruction\n") ∧
      (serve ["run", "cr.asm"] .empty h).result = .ok 0 ∧
      (serve ["run", "-"] ⟨"SET 1 5\rADD".toUTF8, .kept⟩ h).result = .ok 1 := by
  have hstderr : (serve ["run", "prog.asm"] .empty (.fresh
      (((Files.Tree.empty ["work"]).withFile "prog.asm" "BAD\n".toUTF8).withFile
        "cr.asm" "SET 1 5\rADD".toUTF8))).stderr =
          "prog.asm: Line 1: Unknown instruction\n" := by decide +kernel
  have hconsole : (serve ["run", "prog.asm"] .empty (.fresh
      (((Files.Tree.empty ["work"]).withFile "prog.asm" "BAD\n".toUTF8).withFile
        "cr.asm" "SET 1 5\rADD".toUTF8))).hub.console =
          [⟨Log.Level.warning, "asmvm.program",
            "Program stopped at line 1: Unknown instruction"⟩] := by decide +kernel
  refine ⟨hstderr, hconsole, ?_, by decide +kernel, by decide +kernel⟩
  intro render hrender heq
  rw [Response.standardError, consoleText_eq render (hconsole.trans (List.nil_append _).symm),
    hstderr] at heq
  exact hrender _ (by simpa using heq)

end Command

end RegisterMachine
