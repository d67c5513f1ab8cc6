import RegisterMachine.Proofs.Log.Delivery
import RegisterMachine.Proofs.Log.Hierarchy

/-!
# Handlers over a whole history

A history is a list of calls, each of which sets up a logger or logs a message (`Hub.after`).

* `Hub.Orderly`: what holds after every history. A logger has not been set up and has neither level
  nor handlers, or it has the level and the handlers that its set-up gave it.
* `Hub.Settles`: what one call does. Loggers with handlers stay as they are.
* `console_emit`: how often a record is shown, namely once by each logger with its name or above it
  whose console handler permits (`showings`).
* `handlers_settled`: all of this for every history that starts with no logger set up.
-/

namespace RegisterMachine.Log

inductive Call where
  | setup (name : String) (consoleLevel : Int) (logFile : Option String)
  | log (name : String) (level : Int) (message : String)
deriving DecidableEq, Repr

def Call.name : Call → String
  | setup name _ _ => name
  | log name _ _ => name

/-! ## Single loggers -/

/-- Does the handler show records on the console? -/
def Handler.shows (handler : Handler) : Bool := handler.sink == .console

/-- Does the logger show records of this level on the console? -/
def Logger.shows (l : Logger) (level : Int) : Bool :=
  l.handlers.any fun handler => handler.shows && decide (handler.level ≤ level)

/-- At most one handler shows records and at most one writes them to a file, which is never the
only handler. -/
structure Logger.Paired (l : Logger) : Prop where
  console : l.handlers.countP Handler.shows ≤ 1
  file : l.handlers.countP (!·.shows) ≤ 1
  together : l.handlers.countP (!·.shows) ≤ l.handlers.countP Handler.shows

/-- The logger has not been set up, or has what its set-up gave it. -/
inductive Logger.Settled (l : Logger) : Prop where
  | unset : l.level = none → l.handlers = [] → Settled l
  | set {level : Int} {place : Option Files.Place} :
      l.level = some Level.debug → l.handlers = Hub.outlets level place → Settled l

theorem Logger.Settled.paired {l : Logger} (h : l.Settled) : l.Paired := by
  cases h with
  | unset _ hnone => constructor <;> simp [hnone]
  | @set level place _ hsome =>
    cases place <;> constructor <;> simp [hsome, Hub.outlets, Handler.shows]

theorem Logger.Settled.countP_handlers {l : Logger} (h : l.Settled) (level : Int) :
    l.handlers.countP (fun d => d.shows && decide (d.level ≤ level)) =
      if l.shows level then 1 else 0 := by
  cases h with
  | unset _ hnone => simp [Logger.shows, hnone]
  | @set consoleLevel place _ hsome =>
    by_cases hlevel : consoleLevel ≤ level <;>
      cases place <;> simp [Logger.shows, hsome, Hub.outlets, Handler.shows, hlevel]

namespace Hub

/-- The hub after a call, whether the call failed or not. -/
def answer (h : Hub) : Call → Hub
  | .setup name consoleLevel logFile => (h.setup name consoleLevel logFile).1
  | .log name level message => (h.submit name level message).1

def after (h : Hub) (calls : List Call) : Hub := calls.foldl answer h

/-- The root is as in the beginning, and the other loggers have names of their own. -/
structure Named (h : Hub) : Prop where
  root : h.root = ⟨rootName, some Level.warning, []⟩
  names : (h.loggers.map Logger.name).Nodup
  dotted : ∀ l ∈ h.loggers, Dotted l.name

/-- Loggers may have been named, but none of them has been set up. -/
structure Unset (h : Hub) : Prop extends h.Named where
  unset : ∀ l ∈ h.loggers, l.level = none ∧ l.handlers = []

theorem unset_fresh (tree : Files.Tree) : (fresh tree).Unset where
  root := rfl
  names := List.nodup_nil
  dotted _ hl := nomatch hl
  unset _ hl := nomatch hl

/-- What holds after every history. -/
structure Orderly (h : Hub) : Prop extends h.Named where
  settled : ∀ l ∈ h.loggers, l.Settled

theorem Unset.orderly {h : Hub} (hu : h.Unset) : h.Orderly where
  toNamed := hu.toNamed
  settled l hl := .unset (hu.unset l hl).1 (hu.unset l hl).2

/-- The hub `h'` is orderly, and loggers that have handlers in `h` are the same in it. -/
structure Settles (h h' : Hub) : Prop where
  orderly : h'.Orderly
  kept : ∀ l ∈ h.loggers, l.handlers ≠ [] → l ∈ h'.loggers

theorem Settles.trans {h h' h'' : Hub} (hs : h.Settles h') (hs' : h'.Settles h'') :
    h.Settles h'' where
  orderly := hs'.orderly
  kept l hl hne := hs'.kept l (hs.kept l hl hne) hne

theorem Orderly.refl {h : Hub} (ho : h.Orderly) : h.Settles h := ⟨ho, fun _ hl _ => hl⟩

/-! ## What one call does -/

/-- Only loggers and root count. -/
theorem Settles.of_eq {h h' h'' : Hub} (hs : h.Settles h') (hroot : h''.root = h'.root)
    (hloggers : h''.loggers = h'.loggers) : h.Settles h'' where
  orderly :=
    { root := hroot ▸ hs.orderly.root
      names := hloggers ▸ hs.orderly.names
      dotted := hloggers ▸ hs.orderly.dotted
      settled := hloggers ▸ hs.orderly.settled }
  kept := hloggers ▸ hs.kept

theorem find?_of_dotted (h : Hub) {name : String} (hname : Dotted name) :
    h.find? name = h.loggers.find? (·.name == name) := by
  rw [find?, hname.isRoot_eq, if_neg Bool.false_ne_true]

theorem Orderly.settles_enter {h : Hub} (ho : h.Orderly) {name : String} (hname : Dotted name) :
    h.Settles (h.enter name) := by
  unfold enter
  cases hfind : h.find? name with
  | some l => exact ho.refl
  | none =>
    rw [find?_of_dotted h hname, List.find?_eq_none] at hfind
    have hnew : name ∉ h.loggers.map Logger.name := by simpa using hfind
    refine ⟨⟨⟨ho.root, ?_, ?_⟩, ?_⟩, fun l hl _ => List.mem_append_left _ hl⟩
    · rw [List.map_append, List.map_singleton, ← List.concat_eq_append]
      exact ho.names.concat hnew
    · simpa [or_imp, forall_and, hname] using ho.dotted
    · have hunset : Logger.Settled ⟨name, none, []⟩ := .unset rfl rfl
      simpa [or_imp, forall_and, hunset] using ho.settled

section
variable (r : Record) (handlers : List Handler) (h : Hub)

theorem foldl_deliver : ∃ tree, handlers.foldl (deliver r) h =
    { h with
      console := h.console ++
        List.replicate (handlers.countP fun d => d.shows && decide (d.level ≤ r.level)) r
      tree := tree } := by
  induction handlers generalizing h with
  | nil => exact ⟨h.tree, by simp⟩
  | cons d ds ih =>
    obtain ⟨tree, htree⟩ := ih (deliver r h d)
    refine ⟨tree, ?_⟩
    rw [List.foldl_cons, htree, List.countP_cons]
    unfold deliver
    by_cases hlevel : d.level ≤ r.level
    · cases hsink : d.sink with
      | console => simp [hlevel, hsink, Handler.shows, List.replicate_succ]
      | file place => simp [hlevel, hsink, Handler.shows]
    · simp [hlevel]

end

theorem Orderly.settles_emit {h : Hub} (ho : h.Orderly) {name : String} (hname : Dotted name)
    (level : Int) (message : String) : h.Settles (h.emit name level message) := by
  have hs := ho.settles_enter hname
  unfold emit
  dsimp only
  split
  · obtain ⟨tree, htree⟩ := foldl_deliver ⟨level, if isRoot name then rootName else name, message⟩
      (((h.enter name).chain name).flatMap Logger.handlers) (h.enter name)
    rw [htree]
    exact hs.of_eq rfl rfl
  · exact hs

theorem Orderly.settles_submit {h : Hub} (ho : h.Orderly) {name : String} (hname : Dotted name)
    (level : Int) (message : String) : h.Settles (h.submit name level message).1 := by
  unfold submit
  split
  · exact ho.settles_enter hname
  · exact ho.settles_emit hname level message

def equip (level : Int) (place : Option Files.Place) (l : Logger) : Logger :=
  { l with level := some Level.debug, handlers := l.handlers ++ outlets level place }

theorem root_modify (h : Hub) {name : String} (hname : Dotted name) (f : Logger → Logger) :
    (h.modify name f).root = h.root := by
  rw [modify, hname.isRoot_eq]
  rfl

theorem loggers_modify (h : Hub) {name : String} (hname : Dotted name) (f : Logger → Logger) :
    (h.modify name f).loggers = h.loggers.map fun l => if l.name = name then f l else l := by
  rw [modify, hname.isRoot_eq]
  simp

/-- Two changes of a logger that keep its name are one. -/
theorem loggers_modify_modify (h : Hub) {name : String} (hname : Dotted name)
    {f g : Logger → Logger} (hf : ∀ l, (f l).name = l.name) :
    ((h.modify name f).modify name g).loggers = (h.modify name (g ∘ f)).loggers := by
  simp only [loggers_modify _ hname, List.map_map]
  congr 1
  funext l
  by_cases hl : l.name = name <;> simp [hl, hf]

theorem Unconfigured.enter {h : Hub} {name : String} (hfree : h.Unconfigured name) :
    (h.enter name).Unconfigured name := by
  intro l hl
  rw [find?_enter, Option.some.injEq] at hl
  cases hfind : h.find? name with
  | none => simp [← hl, hfind]
  | some m => simpa [← hl, hfind] using hfree m hfind

section
variable {h : Hub} (ho : h.Orderly) {name : String} (hname : Dotted name)
include ho hname

theorem Orderly.settles_equip (hfree : h.Unconfigured name) (level : Int)
    (place : Option Files.Place) : h.Settles (h.modify name (equip level place)) := by
  have hnone (l : Logger) (hl : l ∈ h.loggers) (heq : l.name = name) : l.handlers = [] := by
    refine hfree l ?_
    rw [find?_of_dotted h hname, ← heq, find?_of_mem ho.names hl]
  have hloggers := h.loggers_modify hname (equip level place)
  have hmem {l : Logger} (hl : l ∈ (h.modify name (equip level place)).loggers) :
      ∃ m ∈ h.loggers, l = if m.name = name then equip level place m else m := by
    rw [hloggers] at hl
    obtain ⟨m, hm, rfl⟩ := List.mem_map.mp hl
    exact ⟨m, hm, rfl⟩
  refine ⟨⟨⟨(h.root_modify hname _).trans ho.root, ?_, fun l hl => ?_⟩, fun l hl => ?_⟩,
    fun l hl hne => ?_⟩
  · have hnames : (h.modify name (equip level place)).loggers.map Logger.name =
        h.loggers.map Logger.name := by
      rw [hloggers, List.map_map]
      refine List.map_congr_left fun l _ => ?_
      simp only [Function.comp_apply]
      split <;> rfl
    rw [hnames]
    exact ho.names
  · obtain ⟨m, hm, rfl⟩ := hmem hl
    split
    · exact ho.dotted m hm
    · exact ho.dotted m hm
  · obtain ⟨m, hm, rfl⟩ := hmem hl
    split
    · next heq => exact .set rfl (by rw [equip, hnone m hm heq, List.nil_append])
    · exact ho.settled m hm
  · have hother : l.name ≠ name := fun heq => hne (hnone l hl heq)
    rw [hloggers, List.mem_map]
    exact ⟨l, hl, if_neg hother⟩

theorem Orderly.settles_attachIfGiven (hfree : h.Unconfigured name) {start : Hub} (level : Int)
    (hroot : start.root = h.root)
    (hloggers : start.loggers = (h.modify name (equip level none)).loggers)
    (logFile : Option String) : h.Settles (start.attachIfGiven name logFile).1 := by
  have hconsole : h.Settles start :=
    (ho.settles_equip hname hfree level none).of_eq (by rw [hroot, root_modify h hname]) hloggers
  unfold attachIfGiven attachFile
  split
  · exact hconsole
  · split
    · exact hconsole.of_eq rfl rfl
    · split
      · exact hconsole.of_eq rfl rfl
      · next tree _ tree' place _ =>
        -- the file handler completes what the console handler began
        have hfile : h.Settles ({ start with tree := tree' }.addHandler name
            ⟨.file place, Level.debug⟩) := by
          refine (ho.settles_equip hname hfree level (some place)).of_eq ?_ ?_
          · rw [addHandler, root_modify _ hname, root_modify _ hname]
            exact hroot
          · have hkeeps (l : Logger) : (equip level none l).name = l.name := rfl
            have hadd : (fun l : Logger =>
                { l with handlers := l.handlers ++ [⟨.file place, Level.debug⟩] }) ∘
                  equip level none = equip level (some place) := by
              funext l
              simp [equip, outlets]
            rw [addHandler, loggers_modify _ hname]
            dsimp only
            rw [hloggers, ← loggers_modify _ hname, loggers_modify_modify h hname hkeeps, hadd]
        exact hfile.trans (hfile.orderly.settles_emit hname _ _)

theorem Orderly.settles_setup (level : Int) (logFile : Option String) :
    h.Settles (h.setup name level logFile).1 := by
  have hs := ho.settles_enter hname
  unfold setup
  by_cases hfree : h.Unconfigured name
  · rw [if_pos ((h.isEmpty_handlers_enter_iff name).mpr hfree)]
    have hattach : (h.enter name).Settles ((((h.enter name).modify name fun l =>
        { l with level := some Level.debug }).addHandler name ⟨.console, level⟩).attachIfGiven name
          logFile).1 := by
      have hkeeps (l : Logger) : { l with level := some Level.debug }.name = l.name := rfl
      refine hs.orderly.settles_attachIfGiven hname hfree.enter level ?_ ?_ logFile
      · rw [addHandler, root_modify _ hname, root_modify _ hname]
      · rw [addHandler, loggers_modify_modify _ hname hkeeps]
        rfl
    dsimp only
    generalize attachIfGiven _ name logFile = attached at hattach
    rcases attached with ⟨h', e | ⟨⟩⟩
    · exact hs.trans hattach
    · dsimp only
      split
      · exact (hs.trans hattach).trans (hattach.orderly.settles_emit hname _ _)
      · exact hs.trans hattach
  · rw [if_neg (mt (h.isEmpty_handlers_enter_iff name).mp hfree)]
    exact hs

end

theorem Orderly.settles_answer {h : Hub} (ho : h.Orderly) {call : Call}
    (hcall : Dotted call.name) : h.Settles (h.answer call) := by
  cases call with
  | setup name level logFile => exact ho.settles_setup hcall level logFile
  | log name level message => exact ho.settles_submit hcall level message

/-- What one call preserves, a whole history does. -/
theorem Orderly.settles_after {h : Hub} (ho : h.Orderly) {calls : List Call}
    (hcalls : ∀ call ∈ calls, Dotted call.name) : h.Settles (h.after calls) := by
  induction calls generalizing h with
  | nil => exact ho.refl
  | cons call calls ih =>
    have hs := ho.settles_answer (hcalls call List.mem_cons_self)
    exact hs.trans (ih hs.orderly fun c hc => hcalls c (List.mem_cons_of_mem _ hc))

/-! ## How often a record is shown -/

/-- The level from which on messages of a logger are taken: that which a set-up gives, if the logger
or one above it has been set up, and else that of the root. -/
def entryLevel (h : Hub) (name : String) : Int :=
  if ∃ l ∈ h.lineage name, l.handlers ≠ [] then Level.debug else Level.warning

def showings (h : Hub) (name : String) (level : Int) : Nat :=
  if h.entryLevel name ≤ level then (h.lineage name).countP (·.shows level) else 0

theorem lineage_enter (h : Hub) (name other : String) :
    (h.enter name).lineage other = h.lineage other ∨
      (h.enter name).lineage other = h.lineage other ++ [⟨name, none, []⟩] := by
  rcases h.loggers_enter name with hsame | hnew
  · exact .inl (by rw [lineage, hsame, lineage])
  · rw [lineage, hnew, List.filter_append, List.filter_singleton, Bool.cond_decide]
    split
    · exact .inr rfl
    · exact .inl (List.append_nil _)

@[simp] theorem entryLevel_enter (h : Hub) (name : String) :
    (h.enter name).entryLevel = h.entryLevel := by
  funext other
  rcases h.lineage_enter name other with hsame | hnew
  · rw [entryLevel, hsame, entryLevel]
  · simp [entryLevel, hnew]

@[simp] theorem showings_enter (h : Hub) (name : String) :
    (h.enter name).showings = h.showings := by
  funext other level
  rcases h.lineage_enter name other with hsame | hnew
  · rw [showings, hsame, entryLevel_enter, showings]
  · simp [showings, hnew, Logger.shows]

section
variable {ls : List Logger} (hls : ∀ l ∈ ls, l.Settled)
include hls

/-- Among the handlers of each logger at most one shows a record. -/
theorem countP_flatMap_handlers (level : Int) :
    (ls.flatMap Logger.handlers).countP (fun d => d.shows && decide (d.level ≤ level)) =
      ls.countP (·.shows level) := by
  induction ls with
  | nil => rfl
  | cons l ls ih =>
    rw [List.forall_mem_cons] at hls
    rw [List.flatMap_cons, List.countP_append, ih hls.2, List.countP_cons,
      hls.1.countP_handlers, Nat.add_comm]

/-- The level is that of any logger set up, as all of these have the same. -/
theorem effectiveLevel_append_root {root : Logger} (hroot : root.level = some Level.warning) :
    effectiveLevel (ls ++ [root]) =
      if ∃ l ∈ ls, l.handlers ≠ [] then Level.debug else Level.warning := by
  induction ls with
  | nil => simp [effectiveLevel, hroot]
  | cons l ls ih =>
    rw [List.forall_mem_cons] at hls
    cases hls.1 with
    | unset hlevel hnone => simpa [effectiveLevel, hlevel, hnone] using ih hls.2
    | set hlevel hsome => simp [effectiveLevel, hlevel, hsome, outlets]

end

theorem Orderly.settled_reach {h : Hub} (ho : h.Orderly) (name : String) :
    ∀ l ∈ h.reach name, l.Settled := fun l hl =>
  ho.settled l (mem_lineage.mp (mem_reach hl)).1

section
variable {h : Hub} (ho : h.Orderly) {name : String} (hname : Dotted name)
include ho hname

theorem Orderly.reach_perm (hprop : h.Propagates name) :
    (h.reach name).Perm (h.lineage name) := by
  refine reach_perm_lineage ho.names (fun hmem => ?_) hname hprop
  exact (ho.dotted _ hmem).ne_root (by rw [ho.root])

theorem Orderly.takes_iff (hprop : h.Propagates name) (level : Int) :
    h.takes name level ↔ h.entryLevel name ≤ level := by
  have hlevel : effectiveLevel (h.chain name) = h.entryLevel name := by
    rw [chain_eq_reach h hname,
      effectiveLevel_append_root (ho.settled_reach name) (by rw [ho.root]), entryLevel]
    simp only [(ho.reach_perm hname hprop).mem_iff]
  rw [takes, hlevel, and_iff_right_iff_imp]
  intro hle
  have hpos : 0 < h.entryLevel name := by
    unfold entryLevel
    split <;> decide
  omega

theorem Orderly.countP_handlers_chain (hprop : h.Propagates name) (level : Int) :
    ((h.chain name).flatMap Logger.handlers).countP
      (fun d => d.shows && decide (d.level ≤ level)) = (h.lineage name).countP (·.shows level) := by
  rw [chain_eq_reach h hname, List.flatMap_append, List.countP_append,
    countP_flatMap_handlers (ho.settled_reach name), (ho.reach_perm hname hprop).countP_eq]
  simp [ho.root]

/-- Loggers that show the record each add it once. -/
theorem Orderly.console_emit (hprop : (h.enter name).Propagates name) (level : Int)
    (message : String) :
    (h.emit name level message).console =
      h.console ++ List.replicate (h.showings name level) ⟨level, name, message⟩ := by
  have he := (ho.settles_enter hname).orderly
  have htakes := he.takes_iff hname hprop level
  rw [← showings_enter h name, ← console_enter h name]
  simp only [emit, showings, htakes, hname.isRoot_eq, Bool.false_eq_true, if_false]
  split
  · obtain ⟨tree, htree⟩ := foldl_deliver ⟨level, name, message⟩
      (((h.enter name).chain name).flatMap Logger.handlers) (h.enter name)
    rw [htree, he.countP_handlers_chain hname hprop]
  · simp

theorem Orderly.submit_eq (hprop : (h.enter name).Propagates name) (level : Int)
    (message : String) :
    h.submit name level message =
      if Decimal.Fits level ∨ level < h.entryLevel name then (h.emit name level message, .ok ())
      else (h.enter name, .error .tooManyDigits) := by
  have htakes := (ho.settles_enter hname).orderly.takes_iff hname hprop level
  rw [entryLevel_enter] at htakes
  by_cases hfits : Decimal.Fits level
  · simp [submit, hfits]
  · by_cases hle : h.entryLevel name ≤ level
    · simp [submit, htakes, hfits, hle]
    · simp [submit, htakes, hfits, hle, Int.not_le.mp hle]

/-- No record is made of a level that cannot be written. -/
theorem Orderly.console_submit (hprop : (h.enter name).Propagates name) (level : Int)
    (message : String) :
    (h.submit name level message).1.console = h.console ++ List.replicate
      (if Decimal.Fits level then h.showings name level else 0) ⟨level, name, message⟩ := by
  rw [ho.submit_eq hname hprop]
  by_cases hfits : Decimal.Fits level
  · simp [hfits, ho.console_emit hname hprop]
  · by_cases hlt : level < h.entryLevel name
    · simp [hfits, hlt, ho.console_emit hname hprop, showings]
    · simp [hfits, hlt]

theorem Orderly.propagates_enter :
    (h.enter name).Propagates name ∨ (h.enter name).HasLatecomer name := by
  have he := (ho.settles_enter hname).orderly
  have hfound := h.find?_enter name
  rw [find?_of_dotted _ hname] at hfound
  have hmem := List.mem_of_find?_eq_some hfound
  have hself := name_of_find? hfound
  have hor := propagates_or_hasLatecomer he.names he.dotted hmem
  rwa [hself] at hor

end

-- nothing is passed on to a latecomer
example : ¬ ((fresh (.empty [])).after [.setup "ro.x" 10 none, .setup "ro" 10 none]).Propagates
    "ro.x" := by decide

/-! ## Histories -/

section
variable {h : Hub} (ho : h.Orderly) {name : String} {l : Logger} (hl : h.find? name = some l)
include ho hl

theorem Orderly.eq_root_or_mem : l = h.root ∨ l ∈ h.loggers ∧ Dotted name := by
  unfold find? at hl
  split at hl
  · exact .inl (Option.some.inj hl).symm
  · have hmem := List.mem_of_find?_eq_some hl
    exact .inr ⟨hmem, name_of_find? hl ▸ ho.dotted l hmem⟩

theorem Orderly.paired : l.Paired := by
  rcases ho.eq_root_or_mem hl with rfl | ⟨hmem, -⟩
  · constructor <;> simp [ho.root]
  · exact (ho.settled l hmem).paired

theorem Orderly.find?_of_settles {h' : Hub} (hs : h.Settles h') (hne : l.handlers ≠ []) :
    h'.find? name = some l := by
  rcases ho.eq_root_or_mem hl with rfl | ⟨hmem, hname⟩
  · simp [ho.root] at hne
  · rw [find?_of_dotted h hname] at hl
    rw [find?_of_dotted h' hname, ← name_of_find? hl,
      find?_of_mem hs.orderly.names (hs.kept l hmem hne)]

end

/-- After any calls, every logger has at most a console handler and a file handler with it; if it
has any, no later call changes it; and a record is shown once by each logger of its lineage that
shows its level, as long as the loggers pass it on. -/
theorem handlers_settled {h : Hub} (hunset : h.Unset) {calls : List Call}
    (hcalls : ∀ call ∈ calls, Dotted call.name) :
    (∀ name l, (h.after calls).find? name = some l → l.Paired) ∧
    (∀ later : List Call, (∀ call ∈ later, Dotted call.name) →
      ∀ name l, (h.after calls).find? name = some l → l.handlers ≠ [] →
        (h.after (calls ++ later)).find? name = some l) ∧
    ∀ name, Dotted name →
      (((h.after calls).enter name).Propagates name → ∀ level message,
        ((h.after calls).submit name level message).1.console =
          (h.after calls).console ++ List.replicate
            (if Decimal.Fits level then (h.after calls).showings name level else 0)
            ⟨level, name, message⟩ ∧
        (((h.after calls).submit name level message).2 = .ok () ↔
          Decimal.Fits level ∨ level < (h.after calls).entryLevel name)) ∧
      (((h.after calls).enter name).Propagates name ∨
        ((h.after calls).enter name).HasLatecomer name) := by
  have ho := (hunset.orderly.settles_after hcalls).orderly
  refine ⟨fun name l hl => ho.paired hl, fun later hlater name l hl hne => ?_,
    fun name hname => ⟨fun hprop level message => ⟨?_, ?_⟩, ho.propagates_enter hname⟩⟩
  · rw [after, List.foldl_append]
    exact ho.find?_of_settles hl (ho.settles_after hlater) hne
  · exact ho.console_submit hname hprop level message
  · rw [ho.submit_eq hname hprop]
    split
    · next hdone => simp [hdone]
    · next hfailed => simp [hfailed]

/-- A message below two loggers that were set up, the lower of them first. -/
theorem handlers_settled_below_two :
    let h := (fresh (.empty [])).after [.setup "a.b" 10 none, .setup "a" 30 (some "log.txt")]
    (h.enter "a.b.c").Propagates "a.b.c" ∧
      (h.submit "a.b.c" 40 "m").1.console =
        h.console ++ [⟨40, "a.b.c", "m"⟩, ⟨40, "a.b.c", "m"⟩] ∧
      (h.submit "a.b.c" 20 "m").1.console = h.console ++ [⟨20, "a.b.c", "m"⟩] := by
  intro h
  have hcalls : ∀ call ∈ [Call.setup "a.b" 10 none, .setup "a" 30 (some "log.txt")],
      Dotted call.name := by decide
  have hname : Dotted "a.b.c" := by decide
  have hprop : (h.enter "a.b.c").Propagates "a.b.c" := by decide
  have hboth : h.showings "a.b.c" 40 = 2 := by decide
  have hone : h.showings "a.b.c" 20 = 1 := by decide
  have hfits : Decimal.Fits 40 ∧ Decimal.Fits 20 := by decide
  obtain ⟨-, -, hcount⟩ := handlers_settled (unset_fresh (.empty [])) hcalls
  refine ⟨hprop, ?_, ?_⟩
  · rw [((hcount _ hname).1 hprop 40 "m").1, if_pos hfits.1, hboth]
    rfl
  · rw [((hcount _ hname).1 hprop 20 "m").1, if_pos hfits.2, hone]
    rfl

end Hub

end RegisterMachine.Log
