import RegisterMachine.Proofs.Command.Arguments
import RegisterMachine.Proofs.Command.Refusal
import RegisterMachine.Proofs.Log.Delivery

/-!
# Flags in front of a command

Flags say how much is logged, and where. What a command answers depends on loggers and files only
through the source it reads (`agrees_serveTask`), and the set-up of the logger leaves the source as
it is (`exists_setup`). So no flag changes an answer (`serve_flags_agrees`).
-/

namespace RegisterMachine

theorem Log.Level.fits_ofVerbosity (v : Int) : Decimal.Fits (ofVerbosity v) := by
  unfold ofVerbosity
  split
  · decide
  · split <;> decide

namespace Command

open Files (Path Place Tree)
open Log (Hub)

/-! ## What an answer depends on -/

/-- Two answers that cannot be told apart by what is printed and by the exit code. -/
structure Response.Agrees (r r' : Response) : Prop where
  stdout : r.stdout = r'.stdout
  stderr : r.stderr = r'.stderr
  result : r.result = r'.result

theorem agrees_runSource (h h' : Hub) (input : String) (trace : Bool) (source : String) :
    (runSource h input trace source).Agrees (runSource h' input trace source) := by
  simp only [runSource]
  cases (Program.runText source trace).result with
  | error e => exact ⟨rfl, rfl, rfl⟩
  | ok =>
    dsimp only
    cases (Program.runText source trace).state.error with
    | none => exact ⟨rfl, rfl, rfl⟩
    | some d => exact ⟨rfl, rfl, rfl⟩

theorem agrees_serveRun {h h' : Hub} {stdin : Text.Input} {input : String}
    (hopen : openInput h stdin input = openInput h' stdin input) (trace : Bool) :
    (serveRun h stdin input trace).Agrees (serveRun h' stdin input trace) := by
  simp only [serveRun, serveInput, hopen]
  cases sourceText (openInput h' stdin input) with
  | error e => cases e <;> exact ⟨rfl, rfl, rfl⟩
  | ok source => exact agrees_runSource h h' input trace source

/-- Loggers and files have a say in an answer only through the source that is read. -/
theorem agrees_serveTask {h h' : Hub} {stdin : Text.Input} {task : Task}
    (hopen : ∀ input trace, task = .run input trace →
      openInput h stdin input = openInput h' stdin input) :
    (serveTask h stdin task).Agrees (serveTask h' stdin task) := by
  cases task with
  | run input trace => exact agrees_serveRun (hopen input trace rfl) trace
  | repl =>
    simp only [serveTask, serveRepl]
    split
    · exact ⟨rfl, rfl, rfl⟩
    · exact ⟨rfl, rfl, rfl⟩
    · split <;> exact ⟨rfl, rfl, rfl⟩
  | help =>
    simp only [serveTask, serveHelp]
    split <;> exact ⟨rfl, rfl, rfl⟩

/-! ## The source after the set-up -/

/-- If the task has a source other than standard input, then this is a file, and not at one of the
given places. -/
def Task.SourceOutside (task : Task) (t : Tree) (places : Place → Prop) : Prop :=
  ∀ input trace, task = .run input trace → input ≠ "-" →
    ∃ q f, t.Stored input q f ∧ ¬ places q

theorem Task.SourceOutside.mono {task : Task} {t : Tree} {places places' : Place → Prop}
    (h : task.SourceOutside t places) (hsub : ∀ q, places' q → places q) :
    task.SourceOutside t places' := by
  intro input trace htask hinput
  obtain ⟨q, f, hstored, hq⟩ := h input trace htask hinput
  exact ⟨q, f, hstored, mt (hsub q) hq⟩

section
variable {h : Hub} (hs : h.Silent) {task : Task} (logFile : Option String)
  (hlog : ∀ path, Hub.givenPath logFile = some path → h.tree.logError? path = none)
  (hsource : task.SourceOutside h.tree fun q =>
    ∃ path, Hub.givenPath logFile = some path ∧ q = path.place h.tree.home)
include hs hlog hsource

/-- The set-up of the logger, for any verbosity. The source that the task reads stays the same. -/
theorem exists_setup (v : Int) :
    ∃ start h', h.setup Hub.libraryLogger (Log.Level.ofVerbosity v) logFile = (h', .ok ()) ∧
      Hub.Attached (Log.Level.ofVerbosity v) (Hub.givenPath logFile) h start ∧
      Hub.Sent (Log.Level.ofVerbosity v) ((Hub.givenPath logFile).map (·.place h.tree.home))
        (Hub.announcements (Log.Level.ofVerbosity v) (Hub.givenPath logFile)) start h' ∧
      ∀ stdin input trace, task = .run input trace →
        openInput h' stdin input = openInput h stdin input := by
  obtain ⟨start, h', hsetup, hattached, hsent⟩ :=
    hs.exists_sent_setup (Log.Level.fits_ofVerbosity v) logFile hlog
  refine ⟨start, h', hsetup, hattached, hsent, ?_⟩
  intro stdin input trace htask
  by_cases hinput : input = "-"
  · rw [hinput, openInput_stdin, openInput_stdin]
  · obtain ⟨q, f, hstored, hq⟩ := hsource input trace htask hinput
    have hstored' : h'.tree.Stored input q f := by
      refine hattached.stored_of_sent hsent hstored fun path hpath heq => ?_
      exact hq ⟨path, hpath, heq⟩
    have hopen := Tree.openSource_eq_ok_iff.mpr ⟨q, hstored⟩
    have hopen' := Tree.openSource_eq_ok_iff.mpr ⟨q, hstored'⟩
    rw [openInput_of_file hinput hopen, openInput_of_file hinput hopen', hsent.stamp,
      hattached.stamp]

end

/-- No flag changes what a command prints or its exit code. Before, no logger has a handler; a log
file can be opened, and is not the source under another name. -/
theorem serve_flags_agrees {h : Hub} (hs : h.Silent) {name : String} {args : List String}
    {task : Task} (hname : name ∈ commandNames)
    (hargs : Request.parse (name :: args) = .ok (.serve 0 none task)) (flags : List Flag)
    (hlog : ∀ path, .logFile path ∈ flags → h.tree.logError? (.ofText path) = none)
    (hsource : task.SourceOutside h.tree fun q =>
      ∃ path, .logFile path ∈ flags ∧ q = (Path.ofText path).place h.tree.home)
    (stdin : Text.Input) :
    (serve (flags.map Flag.text ++ name :: args) stdin h).Agrees
      (serve (name :: args) stdin h) := by
  have hgiven {path : Path} (hpath : Hub.givenPath (Flag.logFile? flags) = some path) :
      ∃ text, .logFile text ∈ flags ∧ path = .ofText text := by
    obtain ⟨text, htext, rfl⟩ := Option.map_eq_some_iff.mp hpath
    exact ⟨text, Flag.mem_of_logFile? (Option.filter_eq_some_iff.mp htext).1, rfl⟩
  have hlog' : ∀ path, Hub.givenPath (Flag.logFile? flags) = some path →
      h.tree.logError? path = none := by
    intro path hpath
    obtain ⟨text, hmem, rfl⟩ := hgiven hpath
    exact hlog text hmem
  have hsource' : task.SourceOutside h.tree fun q =>
      ∃ path, Hub.givenPath (Flag.logFile? flags) = some path ∧
        q = path.place h.tree.home := by
    refine hsource.mono ?_
    rintro _ ⟨path, hpath, rfl⟩
    obtain ⟨text, hmem, rfl⟩ := hgiven hpath
    exact ⟨text, hmem, rfl⟩
  obtain ⟨-, flagged, hsetup, -, -, hopen⟩ :=
    exists_setup hs _ hlog' hsource' (Flag.verbosity flags)
  have hbare : task.SourceOutside h.tree fun q =>
      ∃ path, Hub.givenPath none = some path ∧ q = path.place h.tree.home := by
    refine hsource.mono ?_
    rintro _ ⟨_, hnone, -⟩
    cases hnone
  obtain ⟨-, bare, hsetup', -, -, hopen'⟩ :=
    exists_setup hs none (fun _ hnone => nomatch hnone) hbare (0 : Nat)
  rw [serve_of_setup (parse_flags hname hargs flags) stdin hsetup,
    serve_of_setup hargs stdin hsetup']
  refine agrees_serveTask fun input trace htask => ?_
  rw [hopen stdin input trace htask, hopen' stdin input trace htask]

/-- A source beside a log file in a directory that has to be made, with the verbosity in one
argument. -/
theorem serve_flags_agrees_verbose :
    ∃ h : Hub, h.Silent ∧
      Request.parse ["run", "prog.asm"] = .ok (.serve 0 none (.run "prog.asm" false)) ∧
      h.tree.logError? (.ofText "logs/../logs/x.log") = none ∧
      (∃ f, h.tree.Stored "prog.asm" ⟨["work", "prog.asm"]⟩ f) ∧
      (Path.ofText "logs/../logs/x.log").place h.tree.home = ⟨["work", "logs", "x.log"]⟩ ∧
      (serve ["-vv", "--log-file=logs/../logs/x.log", "run", "prog.asm"] .empty h).Agrees
        (serve ["run", "prog.asm"] .empty h) := by
  obtain ⟨h, hs, hlog, f, hstored, hplace⟩ : ∃ h : Hub, h.Silent ∧
      h.tree.logError? (.ofText "logs/../logs/x.log") = none ∧
      ∃ f, h.tree.Stored "prog.asm" ⟨["work", "prog.asm"]⟩ f ∧
        (Path.ofText "logs/../logs/x.log").place h.tree.home = ⟨["work", "logs", "x.log"]⟩ :=
    ⟨.fresh ((Tree.empty ["work"]).withFile "prog.asm" "SET 1 5\nADD".toUTF8),
      ⟨rfl, fun l hl => nomatch hl⟩, by decide +kernel, _, ⟨rfl, rfl, rfl⟩, by decide +kernel⟩
  have hargs : Request.parse ["run", "prog.asm"] =
      .ok (.serve 0 none (.run "prog.asm" false)) := rfl
  refine ⟨h, hs, hargs, hlog, ⟨f, hstored⟩, hplace, ?_⟩
  have hpath {path : String}
      (hmem : Flag.logFile path ∈ [.verbose 1, .logFile "logs/../logs/x.log"]) :
      path = "logs/../logs/x.log" := by simpa using hmem
  refine serve_flags_agrees hs (by decide) hargs [.verbose 1, .logFile "logs/../logs/x.log"]
    ?_ ?_ .empty
  · intro path hmem
    rw [hpath hmem]
    exact hlog
  · rintro input trace ⟨rfl, rfl⟩ -
    refine ⟨_, f, hstored, ?_⟩
    rintro ⟨path, hmem, hsame⟩
    rw [hpath hmem, hplace] at hsame
    exact absurd hsame (by decide)

end Command

end RegisterMachine
