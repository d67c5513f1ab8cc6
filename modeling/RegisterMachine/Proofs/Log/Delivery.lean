import RegisterMachine.Proofs.Files.Sources

/-!
# Where records go

While no logger but that of the library has handlers (`Wired`), every record of the library that is
taken goes to all of them: to the console if its level permits, and to the log file always.
`Sent` is what holds between the hubs before and after some records went out; `Wired.sent_emit` is
the step for one of them, and `exists_sent_setup` says what a set-up sends.
-/

namespace RegisterMachine.Log.Hub

open Files (Path Place Tree)

/-! ## Names of loggers -/

/-- The name stands directly below that of the library. -/
structure Below (name : String) : Prop where
  isRoot_eq : isRoot name = false
  ne : name ≠ libraryLogger
  fronts_eq : fronts name.toList.reverse = [libraryLogger.toList]

def Ours (name : String) : Prop := name = libraryLogger ∨ Below name

theorem Ours.isRoot_eq {name : String} (h : Ours name) : isRoot name = false := by
  rcases h with rfl | h
  · rfl
  · exact h.isRoot_eq

/-! ## Handlers -/

/-- No logger has a handler. -/
structure Silent (h : Hub) : Prop where
  root : h.root.handlers = []
  loggers : ∀ l ∈ h.loggers, l.handlers = []

/-- The logger of the library takes everything and has these handlers; no other logger has any. -/
structure Wired (h : Hub) (handlers : List Handler) : Prop where
  root : h.root.handlers = []
  library : ∃ l, h.loggers.find? (·.name == libraryLogger) = some l ∧
    l.level = some Level.debug ∧ l.handlers = handlers
  others : ∀ l ∈ h.loggers, l.name ≠ libraryLogger → l.handlers = []

/-- The level from which on messages are taken from a logger of the library. -/
def threshold (h : Hub) (name : String) : Int :=
  ((h.loggers.find? (·.name == name)).bind Logger.level).getD Level.debug

def admits (h : Hub) (r : Record) : Bool := h.threshold r.logger ≤ r.level

theorem name_of_find? {loggers : List Logger} {name : String} {l : Logger}
    (hl : loggers.find? (·.name == name) = some l) : l.name = name := by
  simpa using List.find?_some hl

section
variable {h : Hub} {l : Logger} (hl : h.loggers.find? (·.name == libraryLogger) = some l)
include hl

theorem chain_library : h.chain libraryLogger = [l, h.root] := by
  have hroot : isRoot libraryLogger = false := rfl
  have habove : h.above libraryLogger.length libraryLogger = [] := rfl
  rw [chain, hroot, if_neg Bool.false_ne_true, hl, habove]
  rfl

theorem parent?_of_below {name : String} (hname : Below name) : h.parent? name = some l := by
  have hadopt : (fun x : Logger => x.name == String.ofList libraryLogger.toList &&
      h.mayAdopt x name) = fun x => x.name == libraryLogger := by
    funext x
    rw [String.ofList_toList]
    by_cases hx : x.name = libraryLogger
    · have hfront : libraryLogger.toList.isPrefixOf rootName.toList = false := by decide
      simp [mayAdopt, hx, hfront]
    · simp [hx]
  rw [parent?, hname.fronts_eq, List.findSome?_cons, hadopt, hl]

theorem chain_of_below {name : String} (hname : Below name) :
    h.chain name = (h.loggers.find? (·.name == name)).toList ++ [l, h.root] := by
  have hlibrary := name_of_find? hl
  obtain ⟨depth, hdepth⟩ : ∃ depth, name.length = depth + 1 := by
    refine Nat.exists_eq_succ_of_ne_zero fun hzero => ?_
    have hfronts := hname.fronts_eq
    rw [String.length_eq_zero_iff.mp hzero] at hfronts
    cases hfronts
  have htop : h.above depth libraryLogger = [] := by cases depth <;> rfl
  have habove : h.above name.length name = [l] := by
    rw [hdepth, above, parent?_of_below hl hname]
    simp only [hlibrary, htop]
  rw [chain, hname.isRoot_eq, if_neg Bool.false_ne_true, habove, List.append_assoc]
  rfl

end

section
variable {h : Hub} {handlers : List Handler} (hw : h.Wired handlers) {name : String}
  (hname : Ours name)
include hw hname

theorem flatMap_handlers_chain : (h.chain name).flatMap Logger.handlers = handlers := by
  obtain ⟨l, hl, -, hhandlers⟩ := hw.library
  rcases hname with rfl | hbelow
  · simp [chain_library hl, hhandlers, hw.root]
  · rw [chain_of_below hl hbelow]
    cases hown : h.loggers.find? (·.name == name) with
    | none => simp [hhandlers, hw.root]
    | some own =>
      have hnone : own.handlers = [] :=
        hw.others own (List.mem_of_find?_eq_some hown) (name_of_find? hown ▸ hbelow.ne)
      simp [hhandlers, hnone, hw.root]

theorem effectiveLevel_chain : effectiveLevel (h.chain name) = h.threshold name := by
  obtain ⟨l, hl, hlevel, -⟩ := hw.library
  rcases hname with rfl | hbelow
  · simp [chain_library hl, threshold, effectiveLevel, hl, hlevel]
  · rw [chain_of_below hl hbelow, threshold, effectiveLevel]
    cases h.loggers.find? (·.name == name) with
    | none => simp [hlevel]
    | some own => cases hown : own.level <;> simp [hlevel, hown]

end

/-! ## Loggers that are entered -/

theorem loggers_enter (h : Hub) (name : String) :
    (h.enter name).loggers = h.loggers ∨
      (h.enter name).loggers = h.loggers ++ [⟨name, none, []⟩] := by
  unfold enter
  cases h.find? name with
  | some l => exact .inl rfl
  | none => exact .inr rfl

theorem mem_loggers_enter {h : Hub} {name : String} {l : Logger}
    (hl : l ∈ (h.enter name).loggers) : l ∈ h.loggers ∨ l.handlers = [] := by
  rcases h.loggers_enter name with hsame | hnew
  · exact .inl (hsame ▸ hl)
  · rw [hnew, List.mem_append, List.mem_singleton] at hl
    rcases hl with hl | rfl
    · exact .inl hl
    · exact .inr rfl

@[simp] theorem root_enter (h : Hub) (name : String) : (h.enter name).root = h.root := by
  unfold enter
  split <;> rfl

@[simp] theorem console_enter (h : Hub) (name : String) :
    (h.enter name).console = h.console := by
  unfold enter
  split <;> rfl

@[simp] theorem stamp_enter (h : Hub) (name : String) : (h.enter name).stamp = h.stamp := by
  unfold enter
  split <;> rfl

theorem threshold_enter (h : Hub) (name : String) : (h.enter name).threshold = h.threshold := by
  funext other
  rcases h.loggers_enter name with hsame | hnew
  · rw [threshold, hsame, threshold]
  · rw [threshold, hnew, List.find?_append, threshold]
    cases h.loggers.find? (·.name == other) with
    | some l => rfl
    | none => by_cases hother : name = other <;> simp [hother]

theorem Silent.enter {h : Hub} (hs : h.Silent) (name : String) : (h.enter name).Silent where
  root := by rw [root_enter, hs.root]
  loggers l hl := (mem_loggers_enter hl).elim (hs.loggers l) id

theorem Wired.enter {h : Hub} {handlers : List Handler} (hw : h.Wired handlers) (name : String) :
    (h.enter name).Wired handlers where
  root := by rw [root_enter, hw.root]
  library := by
    obtain ⟨l, hl, hlevel, hhandlers⟩ := hw.library
    refine ⟨l, ?_, hlevel, hhandlers⟩
    rcases h.loggers_enter name with hsame | hnew
    · rw [hsame, hl]
    · rw [hnew, List.find?_append, hl, Option.some_or]
  others l hl hne := (mem_loggers_enter hl).elim (fun hmem => hw.others l hmem hne) id

/-! ## Records that go out -/

/-- A console handler of the given level and, for a place, one that writes everything there. -/
def outlets (level : Int) (place : Option Place) : List Handler :=
  ⟨.console, level⟩ :: (place.map fun p => ⟨.file p, Level.debug⟩).toList

/-- The files after records were written to the log file, if there is one. -/
def logged (place : Option Place) (rs : List Record) (t : Tree) : Tree :=
  match place with
  | none => t
  | some p => rs.foldl (Tree.log · p) t

/-- From `h` to `h'`, the handlers were given the records `rs` in order, and nothing else happened
but that loggers were entered. -/
structure Sent (level : Int) (place : Option Place) (rs : List Record) (h h' : Hub) : Prop where
  wired : h'.Wired (outlets level place)
  threshold : h'.threshold = h.threshold
  console : h'.console = h.console ++ rs.filter (level ≤ ·.level)
  tree : h'.tree = logged place rs h.tree
  stamp : h'.stamp = h.stamp

section
variable {level : Int} {place : Option Place} {h h' h'' : Hub}

theorem logged_append (place : Option Place) (rs rs' : List Record) (t : Tree) :
    logged place (rs ++ rs') t = logged place rs' (logged place rs t) := by
  cases place with
  | none => rfl
  | some p => exact List.foldl_append

theorem Sent.admits_eq {rs : List Record} (hsent : Sent level place rs h h') :
    h'.admits = h.admits := by
  funext r
  rw [admits, hsent.threshold, admits]

namespace Sent

theorem nil (hw : h.Wired (outlets level place)) : Sent level place [] h h where
  wired := hw
  threshold := rfl
  console := by simp
  tree := by cases place <;> rfl
  stamp := rfl

theorem append {rs rs' : List Record} (hsent : Sent level place rs h h')
    (hsent' : Sent level place rs' h' h'') : Sent level place (rs ++ rs') h h'' where
  wired := hsent'.wired
  threshold := hsent'.threshold.trans hsent.threshold
  console := by rw [hsent'.console, hsent.console, List.filter_append, List.append_assoc]
  tree := by rw [hsent'.tree, hsent.tree, logged_append]
  stamp := hsent'.stamp.trans hsent.stamp

theorem append_filter {rs rs' : List Record} (hsent : Sent level place (rs.filter h.admits) h h')
    (hsent' : Sent level place (rs'.filter h'.admits) h' h'') :
    Sent level place ((rs ++ rs').filter h.admits) h h'' := by
  rw [hsent.admits_eq] at hsent'
  rw [List.filter_append]
  exact hsent.append hsent'

end Sent

/-- A record reaches the console if its level permits, and the log file. -/
theorem foldl_deliver_outlets (h : Hub) {r : Record} (hr : Level.debug ≤ r.level) :
    (outlets level place).foldl (deliver r) h =
      { h with
        console := h.console ++ [r].filter (level ≤ ·.level)
        tree := logged place [r] h.tree } := by
  cases place with
  | none => by_cases hlevel : level ≤ r.level <;> simp [outlets, deliver, logged, hlevel]
  | some p => by_cases hlevel : level ≤ r.level <;> simp [outlets, deliver, logged, hlevel, hr]

/-- One record of the library. -/
theorem Wired.sent_emit (hw : h.Wired (outlets level place)) {name : String} (hname : Ours name)
    {l : Int} (hl : Level.debug ≤ l) (message : String) :
    Sent level place ([(⟨l, name, message⟩ : Record)].filter h.admits) h
      (h.emit name l message) := by
  have hw' := hw.enter name
  have htakes : (h.enter name).takes name l ↔ h.admits ⟨l, name, message⟩ = true := by
    have hpos : 0 < l := Int.lt_of_lt_of_le (by decide) hl
    rw [takes, effectiveLevel_chain hw' hname, threshold_enter, admits, decide_eq_true_iff]
    exact and_iff_right hpos
  by_cases hadmits : h.admits ⟨l, name, message⟩ = true
  · have hemit : h.emit name l message = { h.enter name with
        console := h.console ++ [(⟨l, name, message⟩ : Record)].filter (level ≤ ·.level)
        tree := logged place [⟨l, name, message⟩] h.tree } := by
      simp only [emit, if_pos (htakes.mpr hadmits), hname.isRoot_eq, Bool.false_eq_true, if_false]
      rw [flatMap_handlers_chain hw' hname, foldl_deliver_outlets _ hl, console_enter, tree_enter]
    rw [List.filter_cons_of_pos hadmits, List.filter_nil, hemit]
    exact ⟨⟨hw'.root, hw'.library, hw'.others⟩, h.threshold_enter name, rfl, rfl,
      h.stamp_enter name⟩
  · have hemit : h.emit name l message = h.enter name := by
      simp only [emit, if_neg (mt htakes.mp hadmits)]
    rw [List.filter_cons_of_neg hadmits, List.filter_nil, hemit]
    exact ⟨hw', h.threshold_enter name, by simp, by cases place <;> simp [logged],
      h.stamp_enter name⟩

/-- No record of the logger of the library itself is held back. -/
theorem Wired.sent_emit_library (hw : h.Wired (outlets level place)) {l : Int}
    (hl : Level.debug ≤ l) (message : String) :
    Sent level place [⟨l, libraryLogger, message⟩] h (h.emit libraryLogger l message) := by
  have hadmits : h.admits ⟨l, libraryLogger, message⟩ = true := by
    obtain ⟨library, hlibrary, hlevel, -⟩ := hw.library
    simpa [admits, threshold, hlibrary, hlevel] using hl
  have hsent := hw.sent_emit (.inl rfl) hl message
  rwa [List.filter_cons_of_pos hadmits, List.filter_nil] at hsent

end

/-! ## Setting up -/

/-- Loggers of one name are changed, and keep their name. -/
theorem find?_loggers_modify (h : Hub) {target : String} (htarget : isRoot target = false)
    {f : Logger → Logger} (hf : ∀ l, (f l).name = l.name) (name : String) :
    (h.modify target f).loggers.find? (·.name == name) =
      (h.loggers.find? (·.name == name)).map fun l => if l.name == target then f l else l := by
  have hname : ((fun l : Logger => l.name == name) ∘ fun l =>
      if l.name == target then f l else l) = fun l => l.name == name := by
    funext l
    simp only [Function.comp_apply]
    split
    · rw [hf]
    · rfl
  rw [modify, htarget, if_neg Bool.false_ne_true, List.find?_map, hname]

theorem find?_library_modify {h : Hub} (f : Logger → Logger) (hf : ∀ l, (f l).name = l.name)
    {l : Logger} (hl : h.loggers.find? (·.name == libraryLogger) = some l) :
    (h.modify libraryLogger f).loggers.find? (·.name == libraryLogger) = some (f l) := by
  rw [find?_loggers_modify h rfl hf, hl, Option.map_some, name_of_find? hl]
  rfl

theorem threshold_modify_library (h : Hub) {f : Logger → Logger} (hf : ∀ l, (f l).name = l.name)
    {name : String} (hname : name ≠ libraryLogger) :
    (h.modify libraryLogger f).threshold name = h.threshold name := by
  rw [threshold, find?_loggers_modify h rfl hf, threshold]
  cases hl : h.loggers.find? (·.name == name) with
  | none => rfl
  | some l =>
    have hother : l.name ≠ libraryLogger := by rwa [name_of_find? hl]
    simp [hother]

theorem threshold_addHandler (h : Hub) (handler : Handler) {name : String}
    (hname : name ≠ libraryLogger) :
    (h.addHandler libraryLogger handler).threshold name = h.threshold name := by
  rw [addHandler, threshold_modify_library _ (fun l => ?_) hname]
  rfl

theorem others_modify_library {h : Hub} {f : Logger → Logger} (hf : ∀ l, (f l).name = l.name)
    (hothers : ∀ l ∈ h.loggers, l.name ≠ libraryLogger → l.handlers = []) :
    ∀ l ∈ (h.modify libraryLogger f).loggers, l.name ≠ libraryLogger → l.handlers = [] := by
  intro l hl hne
  obtain ⟨l', hl', rfl⟩ := List.mem_map.mp (show l ∈ h.loggers.map _ from hl)
  by_cases hlibrary : l'.name = libraryLogger
  · simp [hlibrary, hf] at hne
  · simp only [beq_iff_eq, hlibrary, if_false] at hne ⊢
    exact hothers l' hl' hne

theorem Silent.wired {h : Hub} (hs : h.Silent) :
    ((h.enter libraryLogger).modify libraryLogger fun l =>
      { l with level := some Level.debug }).Wired [] where
  root := (hs.enter libraryLogger).root
  library := by
    obtain ⟨l, hl⟩ : ∃ l, (h.enter libraryLogger).loggers.find? (·.name == libraryLogger) =
        some l := ⟨_, h.find?_enter libraryLogger⟩
    exact ⟨_, find?_library_modify (fun l => { l with level := some Level.debug })
      (fun _ => rfl) hl, rfl, (hs.enter libraryLogger).loggers l (List.mem_of_find?_eq_some hl)⟩
  others := others_modify_library (fun _ => rfl) fun l hl _ =>
    (hs.enter libraryLogger).loggers l hl

theorem Wired.addHandler {h : Hub} {handlers : List Handler} (hw : h.Wired handlers)
    (handler : Handler) : (h.addHandler libraryLogger handler).Wired (handlers ++ [handler]) where
  root := hw.root
  library := by
    obtain ⟨l, hl, hlevel, hhandlers⟩ := hw.library
    exact ⟨_, find?_library_modify (fun l => { l with handlers := l.handlers ++ [handler] })
      (fun _ => rfl) hl, hlevel, by rw [hhandlers]⟩
  others := others_modify_library (fun _ => rfl) hw.others

@[simp] theorem console_modify (h : Hub) (name : String) (f : Logger → Logger) :
    (h.modify name f).console = h.console := by
  unfold modify
  split <;> rfl

@[simp] theorem stamp_modify (h : Hub) (name : String) (f : Logger → Logger) :
    (h.modify name f).stamp = h.stamp := by
  unfold modify
  split <;> rfl

/-- The hub `h'` is `h` with handlers for the library, before anything is logged. -/
structure Attached (level : Int) (logFile : Option Path) (h h' : Hub) : Prop where
  wired : h'.Wired (outlets level (logFile.map (·.place h.tree.home)))
  threshold : ∀ name, name ≠ libraryLogger → h'.threshold name = h.threshold name
  console : h'.console = h.console
  tree : logFile = none ∧ h'.tree = h.tree ∨
    ∃ path, logFile = some path ∧ h.tree.Opened path h'.tree
  stamp : h'.stamp = h.stamp

def withConsole (h : Hub) (level : Int) : Hub :=
  ((h.enter libraryLogger).modify libraryLogger fun l =>
    { l with level := some Level.debug }).addHandler libraryLogger ⟨.console, level⟩

theorem Silent.attached {h : Hub} (hs : h.Silent) (level : Int) :
    Attached level none h (h.withConsole level) where
  wired := hs.wired.addHandler ⟨.console, level⟩
  threshold := by
    intro name hname
    rw [withConsole, threshold_addHandler _ _ hname, threshold_modify_library _ (fun l => ?_) hname,
      threshold_enter]
    rfl
  console := by simp [withConsole, addHandler]
  tree := .inl ⟨rfl, by simp [withConsole]⟩
  stamp := by simp [withConsole, addHandler]

/-- A log file that can be had is opened and attached, and then its name is logged. -/
theorem attachFile_of_logError?_eq_none {h : Hub} {path : Path} (hp : path.Normal)
    (hlog : h.tree.logError? path = none) (name : String) :
    ∃ t, h.tree.Opened path t ∧ h.attachFile name path =
      (({ h with tree := t }.addHandler name ⟨.file (path.place h.tree.home), Level.debug⟩).emit
        name Level.info ("Log file: " ++ path.text), .ok ()) := by
  obtain ⟨made, t, hmake, hopen, hopened⟩ := Tree.opened_of_logError?_eq_none hp hlog
  exact ⟨t, hopened, by simp only [Hub.attachFile, hmake, hopen]⟩

section
variable {level : Int} {h start : Hub} (hattached : Attached level none h start)
include hattached

/-- The log file is opened, and its name is the first record. -/
theorem Attached.attachFile {path : Path} (hp : path.Normal)
    (hlog : h.tree.logError? path = none) :
    ∃ start' h', start.attachFile libraryLogger path = (h', .ok ()) ∧
      Attached level (some path) h start' ∧
      Sent level (some (path.place h.tree.home))
        [⟨Level.info, libraryLogger, "Log file: " ++ path.text⟩] start' h' := by
  have htree : start.tree = h.tree := by simpa using hattached.tree
  obtain ⟨t, hopened, hattach⟩ :=
    attachFile_of_logError?_eq_none hp (htree.symm ▸ hlog) libraryLogger
  have hwired : ({ start with tree := t } : Hub).Wired (outlets level none) :=
    ⟨hattached.wired.root, hattached.wired.library, hattached.wired.others⟩
  have hwired' : ({ start with tree := t }.addHandler libraryLogger
      ⟨.file (path.place h.tree.home), Level.debug⟩).Wired
        (outlets level (some (path.place h.tree.home))) := hwired.addHandler _
  rw [htree] at hattach
  refine ⟨_, _, hattach, ⟨hwired', ?_, ?_, ?_, ?_⟩, ?_⟩
  · intro name hname
    rw [threshold_addHandler _ _ hname]
    exact hattached.threshold name hname
  · simpa [addHandler] using hattached.console
  · exact .inr ⟨path, rfl, by simpa [htree] using hopened⟩
  · simpa [addHandler] using hattached.stamp
  · exact hwired'.sent_emit_library (by decide) _

end

/-- The path of the log file, if one is given that is not empty. -/
def givenPath (logFile : Option String) : Option Path :=
  (logFile.filter (!·.isEmpty)).map .ofText

def closing (level : Int) : String :=
  "Logger initialized: " ++ libraryLogger ++ " (console " ++ Level.name level ++ ")"

def announcements (level : Int) (logFile : Option Path) : List Record :=
  (logFile.map fun path => ⟨Level.info, libraryLogger, "Log file: " ++ path.text⟩).toList ++
    [⟨Level.debug, libraryLogger, closing level⟩]

theorem setup_of_unconfigured {h h' : Hub} (hfresh : h.Unconfigured libraryLogger) {level : Int}
    (hlevel : Decimal.Fits level) {logFile : Option String}
    (hattach : (h.withConsole level).attachIfGiven libraryLogger logFile = (h', .ok ())) :
    h.setup libraryLogger level logFile =
      (h'.emit libraryLogger Level.debug (closing level), .ok ()) := by
  unfold withConsole at hattach
  unfold setup
  rw [if_pos ((h.isEmpty_handlers_enter_iff libraryLogger).mpr hfresh)]
  dsimp only
  rw [hattach]
  exact if_pos hlevel

/-- A set-up where no logger has a handler: the handlers are attached, and then the first records
go out to them. -/
theorem Silent.exists_sent_setup {h : Hub} (hs : h.Silent) {level : Int}
    (hlevel : Decimal.Fits level) (logFile : Option String)
    (hlog : ∀ path, givenPath logFile = some path → h.tree.logError? path = none) :
    ∃ start h', h.setup libraryLogger level logFile = (h', .ok ()) ∧
      Attached level (givenPath logFile) h start ∧
      Sent level ((givenPath logFile).map (·.place h.tree.home))
        (announcements level (givenPath logFile)) start h' := by
  have hfresh : h.Unconfigured libraryLogger :=
    fun l hl => hs.loggers l (List.mem_of_find?_eq_some hl)
  have hattached := hs.attached level
  unfold givenPath at hlog ⊢
  cases hgiven : logFile.filter (!·.isEmpty) with
  | none =>
    have hattach : (h.withConsole level).attachIfGiven libraryLogger logFile =
        (h.withConsole level, .ok ()) := by rw [attachIfGiven, hgiven]
    exact ⟨_, _, setup_of_unconfigured hfresh hlevel hattach, hattached,
      hattached.wired.sent_emit_library (Int.le_refl _) _⟩
  | some path =>
    obtain ⟨start, h', hfile, hstart, hsent⟩ :=
      hattached.attachFile (Path.normal_ofText path) (hlog _ (by rw [hgiven, Option.map_some]))
    have hattach : (h.withConsole level).attachIfGiven libraryLogger logFile = (h', .ok ()) := by
      rw [attachIfGiven, hgiven]
      exact hfile
    exact ⟨_, _, setup_of_unconfigured hfresh hlevel hattach, hstart,
      hsent.append (hsent.wired.sent_emit_library (Int.le_refl _) _)⟩

/-! ## The files afterwards -/

section
variable {level : Int} {rs : List Record} {h start h' : Hub}

theorem Attached.tree_of_sent (hattached : Attached level none h start)
    (hsent : Sent level none rs start h') : h'.tree = h.tree := by
  have hstart : start.tree = h.tree := by simpa using hattached.tree
  rw [hsent.tree, ← hstart]
  rfl

section
variable {path : Path} (hattached : Attached level (some path) h start)
  (hsent : Sent level (some (path.place h.tree.home)) rs start h')
include hattached hsent

theorem Attached.spares_of_sent : Tree.Spares (path.place h.tree.home) h.tree h'.tree := by
  obtain ⟨_, hpath, hspares, f, hfile, -⟩ := hattached.tree.resolve_left (by simp)
  cases hpath
  rw [hsent.tree]
  exact hspares.trans (Tree.foldl_log hfile rs).2

end

/-- A source that is not the log file is still there. -/
theorem Attached.stored_of_sent {logFile : Option Path}
    (hattached : Attached level logFile h start)
    (hsent : Sent level (logFile.map (·.place h.tree.home)) rs start h') {input : String}
    {q : Place} {f : Files.File} (hstored : h.tree.Stored input q f)
    (hne : ∀ path, logFile = some path → q ≠ path.place h.tree.home) :
    h'.tree.Stored input q f := by
  cases logFile with
  | none =>
    rw [hattached.tree_of_sent hsent]
    exact hstored
  | some path => exact hstored.of_spares (hattached.spares_of_sent hsent) (hne path rfl)

end

end RegisterMachine.Log.Hub
