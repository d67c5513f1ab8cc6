import RegisterMachine.Proofs.Command.Records
import RegisterMachine.Proofs.Operation

/-!
# The console of a command without flags

Without flags the console takes warnings only, and a command writes its records there before it
prints anything on standard error. Machines and sessions report nothing of that level
(`quiet_converse`); a program gives one warning if it meets a rejected line, and none otherwise
(`warned_runLines`). `console_serve` says what the console then shows.
-/

namespace RegisterMachine

open Log (Hub Record)

/-! ## Outcomes without a warning -/

/-- Nothing is reported above the lowest level. -/
def Outcome.Quiet {σ α : Type} (o : Outcome σ α) : Prop := ∀ e ∈ o.log, e.level = Log.Level.debug

namespace Outcome

variable {σ α β : Type}

theorem quiet_mk (s : σ) {log : List Event} (h : ∀ e ∈ log, e.level = Log.Level.debug)
    (r : Except Failure α) : Quiet ⟨s, log, r⟩ := h

theorem quiet_done (s : σ) (a : α) : (done s a).Quiet := nofun

theorem quiet_faulty (s : σ) (f : Fault) : (faulty s f : Outcome σ α).Quiet := nofun

theorem quiet_ofFaulty (s : σ) (r : Except Fault α) : (ofFaulty s r).Quiet := by
  cases r <;> nofun

theorem andThen_of_ok {o : Outcome σ α} {a : α} (h : o.result = .ok a)
    (f : α → σ → Outcome σ β) : o.andThen f = (f a o.state).after o.log := by
  simp only [Outcome.andThen, h]
  rfl

theorem Quiet.andThen {o : Outcome σ α} {f : α → σ → Outcome σ β} (h : o.Quiet)
    (hf : ∀ a s, (f a s).Quiet) : (o.andThen f).Quiet := by
  unfold Outcome.andThen
  split
  · exact h
  · exact quiet_mk _ (List.forall_mem_append.mpr ⟨h, hf _ _⟩) _

/-- What both parts of an operation keep. -/
theorem andThen_induction {P : σ → Prop} {o : Outcome σ α} {f : α → σ → Outcome σ β}
    (h : P o.state) (hf : ∀ a s, P s → P (f a s).state) : P (o.andThen f).state := by
  unfold Outcome.andThen
  split
  · exact h
  · exact hf _ _ h

end Outcome

namespace Machine

theorem quiet_append (m : Machine) (offer : Offer) : (m.append offer).Quiet := by
  cases offer <;> simp [append, Outcome.Quiet, Event.level]

theorem quiet_report (m : Machine) (pc : Int) (s : Statement) : (m.report pc s).Quiet := by
  unfold report
  split
  · exact Outcome.quiet_faulty _ _
  · split
    · simp [Outcome.Quiet, Event.level]
    · exact Outcome.quiet_faulty _ _

theorem quiet_step (m : Machine) : m.step.Quiet := by
  unfold step
  split
  · exact Outcome.quiet_done _ _
  · exact Outcome.quiet_faulty _ _
  · split
    · exact Outcome.quiet_faulty _ _
    · exact quiet_report _ _ _

theorem quiet_run (fuel : Nat) (m : Machine) : (m.run fuel).Quiet := by
  induction fuel generalizing m with
  | zero =>
    unfold run
    split
    · exact Outcome.quiet_done _ _
    · exact Outcome.quiet_faulty _ _
  | succ fuel ih =>
    unfold run
    split
    · exact Outcome.quiet_done _ _
    · exact m.quiet_step.andThen fun _ m' => ih m'

end Machine

namespace Command

end Command

/-! ## Warnings of a program -/

def warnings (events : List Event) : List Event := events.filter (Log.Level.warning ≤ ·.level)

theorem Outcome.Quiet.warnings_eq {σ α : Type} {o : Outcome σ α} (h : o.Quiet) :
    warnings o.log = [] := by
  rw [warnings, List.filter_eq_nil_iff]
  intro e he
  simp [h e he, Log.Level.warning, Log.Level.debug]

namespace Program

/-- The warning about the line that was rejected. -/
def stopRecord (e : Diagnostic) : Record :=
  ⟨Log.Level.warning, "asmvm.program",
    "Program stopped at line " ++ Decimal.text e.lineNum ++ ": " ++ e.detail⟩

theorem record_programStopped {d : Diagnostic} (hd : d.Plain) (n : Nat) (line : String) :
    (Event.programStopped n d).record = stopRecord { d with lineNum := n, lineText := line } := by
  have hmessage : (Event.programStopped n d).message =
      "Program stopped at line " ++ Decimal.text n ++ ": " ++ d.message := rfl
  rw [hd.message_eq] at hmessage
  exact congrArg (Record.mk Log.Level.warning "asmvm.program") hmessage

section
variable (p : Program) (s : Statement)

theorem quiet_execute : (p.execute s).Quiet := by
  have hran : ((p.machine.append (.sequence [some s])).andThen fun _ m => m.run m.count).Quiet :=
    (p.machine.quiet_append _).andThen fun _ m => m.quiet_run m.count
  have hwithin : (((p.machine.append (.sequence [some s])).andThen fun _ m =>
      m.run m.count).within fun m => { p with machine := m }).Quiet := hran
  exact hwithin.andThen fun _ p' =>
    (Outcome.quiet_ofFaulty _ _).andThen fun _ p'' => Outcome.quiet_done _ _

theorem error_execute : (p.execute s).state.error = p.error := by
  have hkeeps {α β : Type} {o : Outcome Program α} {f : α → Program → Outcome Program β} :=
    Outcome.andThen_induction (P := fun p' => p'.error = p.error) (o := o) (f := f)
  refine hkeeps rfl fun _ p' hp' => hkeeps ?_ fun _ _ => id
  rw [Outcome.state_ofFaulty]
  exact hp'

end

/-- If nothing fails, there is a warning about the line that was rejected, and no other. -/
def Warned (o : Outcome Program Unit) : Prop :=
  o.result = .ok () → (warnings o.log).map Event.record = (o.state.error.map stopRecord).toList

theorem warned_finish {p : Program} (hp : p.error = none) : Warned p.finish := by
  intro hok
  by_cases hfit : Registers.Fit p.machine.registers
  · rw [finish, if_pos hfit]
    simp [warnings, Event.level, Log.Level.warning, Log.Level.info, say, hp]
  · rw [finish, if_neg hfit] at hok
    cases hok

theorem warned_stop (p : Program) (n : Nat) (line : String) {d : Diagnostic} (hd : d.Plain) :
    Warned (p.stop n line d) := by
  intro hok
  by_cases hfits : Decimal.Fits n
  · have hstop : p.stop n line d =
        ⟨{ p with error := some { d with lineNum := n, lineText := line } }.say
          ("ERROR: " ++ d.message), [.programStopped n d], .ok ()⟩ := by
      simp only [stop, Diagnostic.atLine_of_fits hfits]
    have hwarning : warnings [.programStopped n d] = [.programStopped n d] := rfl
    rw [hstop, hwarning]
    exact congrArg ([·]) (record_programStopped hd n line)
  · simp only [stop, Diagnostic.atLine, if_neg hfits] at hok
    cases hok

theorem warned_runLines {p : Program} (hp : p.error = none) (n : Nat) (ls : List String) :
    Warned (p.runLines n ls) := by
  induction ls generalizing p n with
  | nil => exact warned_finish hp
  | cons line ls ih =>
    rcases hline : p.machine.language.assembleLine line with d | _ | s
    · simp only [runLines, hline]
      exact warned_stop p n line (Language.plain_of_assembleLine hline)
    · simp only [runLines, hline]
      exact ih hp (n + 1)
    · -- executing a statement warns of nothing and keeps the error, so the rest decides
      intro hok
      simp only [runLines, hline] at hok ⊢
      obtain ⟨⟨⟩, hexec, hrest⟩ := Outcome.result_andThen_eq_ok hok
      have hquiet := (p.quiet_execute s).warnings_eq
      rw [Outcome.andThen_of_ok hexec]
      simp only [warnings, Outcome.after, List.filter_append] at hquiet ⊢
      rw [hquiet, List.nil_append]
      exact ih ((p.error_execute s).trans hp) (n + 1) hrest

theorem warnings_runText {source : String} {trace : Bool} {p : Program} {log : List Event}
    (hrun : runText source trace = ⟨p, log, .ok ()⟩) :
    (warnings log).map Event.record = (p.error.map stopRecord).toList := by
  have hlines : (ofText source trace).runLines 1 (Text.lines source) = ⟨p, log, .ok ()⟩ := hrun
  have hwarned := warned_runLines (p := ofText source trace) rfl 1 (Text.lines source)
  rw [hlines] at hwarned
  exact hwarned rfl

end Program

/-! ## The console without flags -/

namespace Command

/-- The hub once the logger is set up for a command without flags. -/
def ready (h : Hub) : Hub := (h.setup Hub.libraryLogger (Log.Level.ofVerbosity 0) none).1

theorem serve_of_ready {args : List String} {task : Task}
    (hargs : Request.parse args = .ok (.serve 0 none task)) (stdin : Text.Input) (h : Hub) :
    serve args stdin h = serveTask (ready h) stdin task := by
  obtain ⟨h', hsetup⟩ := h.setup_none Hub.libraryLogger (Log.Level.fits_ofVerbosity 0)
  rw [serve_of_setup hargs stdin hsetup, ready, hsetup]

theorem consoleText_eq (render : Record → String) {h h' : Hub} {rs : List Record}
    (hconsole : h'.console = h.console ++ rs) :
    consoleText render h h' = String.join (rs.map render) := by
  rw [consoleText, hconsole, List.drop_left]

/-- Only warnings and worse are shown of what is logged, unless a logger holds them back. -/
theorem shown_map_record (h : Hub) (events : List Event) :
    shown 0 ((events.map Event.record).filter h.admits) =
      ((warnings events).map Event.record).filter h.admits := by
  rw [shown, List.filter_comm, List.filter_map]
  rfl

section
variable {h : Hub} (hs : h.Silent)
include hs

theorem exists_sent_ready :
    ∃ start, Hub.Attached Log.Level.warning none h start ∧
      Hub.Sent Log.Level.warning none
        [⟨Log.Level.debug, Hub.libraryLogger, Hub.closing Log.Level.warning⟩] start (ready h) := by
  obtain ⟨start, h', hsetup, hattached, hsent⟩ := hs.exists_sent_setup
    (Log.Level.fits_ofVerbosity 0) none (fun path hpath => nomatch hpath)
  have hready : ready h = h' := congrArg Prod.fst hsetup
  rw [hready]
  exact ⟨start, hattached, hsent⟩

/-- Where no logger has a handler, the set-up touches no file. -/
theorem ready_of_silent : (ready h).tree = h.tree ∧ (ready h).stamp = h.stamp := by
  obtain ⟨start, hattached, hsent⟩ := exists_sent_ready hs
  exact ⟨hattached.tree_of_sent hsent, hsent.stamp.trans hattached.stamp⟩

variable {args : List String} {task : Task}
  (hargs : Request.parse args = .ok (.serve 0 none task)) (stdin : Text.Input)
include hargs

theorem console_serve :
    (serve args stdin h).hub.console =
      h.console ++ shown 0 ((task.records (ready h) stdin).filter h.admits) := by
  obtain ⟨start, hattached, hsent⟩ := exists_sent_ready hs
  have htask := sent_serveTask hsent.wired stdin task
  rw [hsent.admits_eq, filter_admits_records hattached] at htask
  rw [serve_of_ready hargs, htask.console, hsent.console, hattached.console]
  exact congrArg (· ++ _) (List.append_nil h.console)

end

theorem console_serve_run {h : Hub} (hs : h.Silent) {args : List String} {input text : String}
    {trace : Bool} (hargs : Request.parse args = .ok (.serve 0 none (.run input trace)))
    {stdin : Text.Input} (htext : sourceText (openInput (ready h) stdin input) = .ok text) :
    (serve args stdin h).hub.console =
      h.console ++
        ((warnings (Program.runText text trace).log).map Event.record).filter h.admits := by
  have hhidden : ¬ Log.Level.ofVerbosity 0 ≤ Log.Level.info := by decide
  have hstart (rs : List Record) :
      shown 0 ((⟨Log.Level.info, logger, "Running " ++ input⟩ :: rs).filter h.admits) =
        shown 0 (rs.filter h.admits) := by
    rw [shown, List.filter_comm, List.filter_cons_of_neg (by simpa using hhidden),
      List.filter_comm, shown]
  rw [console_serve hs hargs stdin, ← shown_map_record]
  simp only [Task.records, htext, hstart]

end Command

end RegisterMachine
