import RegisterMachine.Command.Serve
import RegisterMachine.Proofs.Log.Setup

/-!
# Refusals of the operating system

A command whose source file is refused says so and ends with exit code 1. Its log file is opened
before anything is caught, so that a refusal there ends the program without an exit code
(`osError_escapes_iff`).
-/

namespace RegisterMachine.Command

open Files (OsError PathError)
open Log (Hub)

theorem openInput_stdin (h : Hub) (stdin : Text.Input) : openInput h stdin "-" = .ok stdin :=
  if_pos rfl

theorem openInput_of_file {h : Hub} {input : String} {file : Files.File} (hinput : input ≠ "-")
    (hopen : h.tree.openSource input = .ok file) (stdin : Text.Input) :
    openInput h stdin input = .ok ⟨file.bytes h.stamp, .unified⟩ := by
  simp only [openInput, if_neg hinput, hopen]

theorem sourceText_ok (source : Text.Input) :
    sourceText (.ok source) = source.text?.elim (.error (.escaped .undecodable)) .ok := by
  simp only [sourceText, bind, Except.bind]
  cases source.text? <;> rfl

theorem ne_os_of_openInput {h : Hub} {stdin : Text.Input} {input : String} {escape : Escape}
    (hopen : openInput h stdin input = .error (.escaped escape)) (e : OsError) :
    escape ≠ .path (.os e) := by
  unfold openInput at hopen
  split at hopen
  · cases hopen
  · split at hopen
    · cases hopen
    · next err _ =>
      cases err with
      | os e' => cases hopen
      | nul =>
        cases hopen
        nofun

theorem ne_os_of_sourceText {h : Hub} {stdin : Text.Input} {input : String} {escape : Escape}
    (hread : sourceText (openInput h stdin input) = .error (.escaped escape)) (e : OsError) :
    escape ≠ .path (.os e) := by
  cases hopen : openInput h stdin input with
  | error err =>
    rw [hopen] at hread
    cases hread
    exact ne_os_of_openInput hopen e
  | ok source =>
    rw [hopen, sourceText_ok] at hread
    cases htext : source.text? with
    | none =>
      rw [htext] at hread
      cases hread
      nofun
    | some text =>
      rw [htext] at hread
      cases hread

theorem result_serveRun_ne_os (h : Hub) (stdin : Text.Input) (input : String) (trace : Bool)
    (e : OsError) : (serveRun h stdin input trace).result ≠ .error (.path (.os e)) := by
  cases hread : sourceText (openInput h stdin input) with
  | error err =>
    simp only [serveRun, serveInput, hread]
    cases err with
    | reported message => simp [SourceError.response]
    | escaped escape => simpa [SourceError.response] using ne_os_of_sourceText hread e
  | ok source =>
    simp only [serveRun, serveInput, hread, runSource]
    split
    · simp
    · split <;> simp

/-- Once its log is set up, no refusal of the operating system ends a command. -/
theorem result_serveTask_ne_os (h : Hub) (stdin : Text.Input) (task : Task) (e : OsError) :
    (serveTask h stdin task).result ≠ .error (.path (.os e)) := by
  cases task with
  | run input trace => exact result_serveRun_ne_os h stdin input trace e
  | repl =>
    simp only [serveTask, serveRepl]
    split
    · simp
    · simp
    · split <;> simp
  | help =>
    simp only [serveTask, serveHelp]
    split <;> simp

theorem serveRun_of_refused {h : Hub} {input : String} {e : OsError} (stdin : Text.Input)
    (trace : Bool) (hinput : input ≠ "-") (hopen : h.tree.openSource input = .error (.os e)) :
    serveRun h stdin input trace = ⟨.ok 1, "", "Error: " ++ openMessage e input ++ "\n", h⟩ := by
  have hrefused : openInput h stdin input = .error (.reported (openMessage e input)) := by
    simp only [openInput, if_neg hinput, hopen]
    rfl
  rw [serveRun, hrefused]
  rfl

section
variable {args : List String} {verbose : Nat} {logFile : Option String} {task : Task}
  (hargs : Request.parse args = .ok (.serve verbose logFile task)) (stdin : Text.Input) {h h' : Hub}
include hargs

theorem serve_of_setup_error {err : Hub.SetupError}
    (hsetup : h.setup Hub.libraryLogger (Log.Level.ofVerbosity verbose) logFile =
      (h', .error err)) :
    serve args stdin h = ⟨.error (.ofSetup err), "", "", h'⟩ := by
  simp only [serve, hargs, hsetup]

theorem serve_of_setup
    (hsetup : h.setup Hub.libraryLogger (Log.Level.ofVerbosity verbose) logFile = (h', .ok ())) :
    serve args stdin h = serveTask h' stdin task := by
  simp only [serve, hargs, hsetup]

theorem result_serve_eq_os_iff (e : OsError) :
    (serve args stdin h).result = .error (.path (.os e)) ↔
      (h.setup Hub.libraryLogger (Log.Level.ofVerbosity verbose) logFile).2 =
        .error (.path (.os e)) := by
  rcases hsetup : h.setup Hub.libraryLogger (Log.Level.ofVerbosity verbose) logFile with
    ⟨h', err | ⟨⟩⟩
  · rw [serve_of_setup_error hargs stdin hsetup]
    cases err <;> simp [Escape.ofSetup]
  · rw [serve_of_setup hargs stdin hsetup]
    simp [result_serveTask_ne_os]

end

/-- What becomes of the refusals of the operating system, for a command line that asks for a
command. One that the log file meets ends the program, without a word; one that the source file
meets is reported, and the exit code is 1. -/
theorem osError_escapes_iff {args : List String} {verbose : Nat} {logFile : Option String}
    {task : Task} (hargs : Request.parse args = .ok (.serve verbose logFile task))
    (stdin : Text.Input) (h : Hub) :
    ((∃ e, (serve args stdin h).result = .error (.path (.os e))) ↔
      h.Unconfigured Hub.libraryLogger ∧
        ∃ path, logFile = some path ∧ path ≠ "" ∧ h.tree.RefusesLog (.ofText path)) ∧
    (∀ e, (serve args stdin h).result = .error (.path (.os e)) →
      (serve args stdin h).stdout = "" ∧ (serve args stdin h).stderr = "") ∧
    ∀ h' input trace e,
      h.setup Hub.libraryLogger (Log.Level.ofVerbosity verbose) logFile = (h', .ok ()) →
      task = .run input trace → input ≠ "-" → h'.tree.openSource input = .error (.os e) →
      serve args stdin h = ⟨.ok 1, "", "Error: " ++ openMessage e input ++ "\n", h'⟩ := by
  refine ⟨?_, ?_, ?_⟩
  · have hlog (path : String) : h.tree.RefusesLog (.ofText path) ↔
        ∃ e, h.tree.logError? (.ofText path) = some (.os e) :=
      (h.tree.exists_logError?_iff (Files.Path.normal_ofText path)).symm
    simp only [result_serve_eq_os_iff hargs, Hub.setup_eq_path_error_iff, hlog]
    constructor
    · rintro ⟨e, hfresh, path, hpath, hne, herror⟩
      exact ⟨hfresh, path, hpath, hne, e, herror⟩
    · rintro ⟨hfresh, path, hpath, hne, e, herror⟩
      exact ⟨e, hfresh, path, hpath, hne, herror⟩
  · intro e hresult
    have hsetup := (result_serve_eq_os_iff hargs stdin e).mp hresult
    rw [serve_of_setup_error hargs stdin (Prod.ext rfl hsetup)]
    exact ⟨rfl, rfl⟩
  · rintro h' input trace e hsetup rfl hinput hopen
    rw [serve_of_setup hargs stdin hsetup]
    exact serveRun_of_refused stdin trace hinput hopen

/-- A file where the log needs a directory, and a source that is not there: the first ends the
program, the second is reported. -/
theorem osError_escapes_iff_both :
    ∃ h : Hub, h.Unconfigured Hub.libraryLogger ∧ h.tree.RefusesLog (.ofText "prog.asm/x.log") ∧
      (∃ e, (serve ["--log-file", "prog.asm/x.log", "run", "prog.asm"] .empty h).result =
        .error (.path (.os e))) ∧
      (serve ["-v", "--log-file", "logs/x.log", "run", "gone.asm"] .empty h).result = .ok 1 ∧
      (serve ["-v", "--log-file", "logs/x.log", "run", "gone.asm"] .empty h).stderr =
        "Error: [Errno 2] No such file or directory: 'gone.asm'\n" := by
  obtain ⟨h, hfresh, hblocked, hsetup, hopen⟩ : ∃ h : Hub,
      h.Unconfigured Hub.libraryLogger ∧ h.tree.RefusesLog (.ofText "prog.asm/x.log") ∧
      (h.setup Hub.libraryLogger (Log.Level.ofVerbosity 1) (some "logs/x.log")).2 = .ok () ∧
      (h.setup Hub.libraryLogger (Log.Level.ofVerbosity 1) (some "logs/x.log")).1.tree.openSource
        "gone.asm" = .error (.os .notFound) :=
    ⟨.fresh ((Files.Tree.empty ["work"]).withFile "prog.asm" "SET 1 10\nADD\n".toUTF8),
      fun l hl => (nomatch hl),
      ⟨by decide, .inl (.inr (.inr ⟨["prog.asm"], _, by decide, rfl⟩))⟩, rfl, rfl⟩
  have hlog : Request.parse ["--log-file", "prog.asm/x.log", "run", "prog.asm"] =
      .ok (.serve 0 (some "prog.asm/x.log") (.run "prog.asm" false)) := rfl
  have hsource : Request.parse ["-v", "--log-file", "logs/x.log", "run", "gone.asm"] =
      .ok (.serve 1 (some "logs/x.log") (.run "gone.asm" false)) := rfl
  have hescape := (osError_escapes_iff hlog .empty h).1.mpr
    ⟨hfresh, "prog.asm/x.log", rfl, by decide, hblocked⟩
  have hreport := (osError_escapes_iff hsource .empty h).2.2 _ "gone.asm" false .notFound
    (Prod.ext rfl hsetup) rfl (by decide) hopen
  have hmessage : "Error: " ++ openMessage .notFound "gone.asm" ++ "\n" =
      "Error: [Errno 2] No such file or directory: 'gone.asm'\n" := by decide
  refine ⟨h, hfresh, hblocked, hescape, ?_, ?_⟩
  · rw [hreport]
  · rw [hreport, hmessage]

/-- The log file is to be put below a file. No exit code comes back, and nothing is said. -/
theorem osError_escapes_below_file :
    let response := serve ["--log-file", "prog.asm/x.log", "run", "prog.asm"] .empty
      (.fresh ((Files.Tree.empty ["work"]).withFile "prog.asm" "SET 1 10\nADD\n".toUTF8))
    response.result = .error (.path (.os .alreadyExists)) ∧ response.stdout = "" ∧
      response.stderr = "" :=
  ⟨rfl, rfl, rfl⟩

end RegisterMachine.Command
