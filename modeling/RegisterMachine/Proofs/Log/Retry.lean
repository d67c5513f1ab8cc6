import RegisterMachine.Proofs.Log.Handlers

/-!
# Setting up again

The first set-up of a logger settles its handlers for good: it leaves a console handler even if the
log file cannot be had (`setup_refused`), and no call changes a logger that has handlers, nor does
away with its log file (`Keeps.after`). So a file that could not be opened is not made up for by
trying again, and one that was opened gets every later message of its logger (`setup_settles`).
-/

namespace RegisterMachine

namespace Files.Tree

/-! ## Files that stay -/

def HasFile (t : Tree) (p : Place) : Prop := ∃ f, t.get? p = some (.file f)

theorem Spares.hasFile {p q : Place} {t t' : Tree} (h : Spares p t t') (hq : t.HasFile q) :
    t'.HasFile q := by
  obtain ⟨f, hf⟩ := hq
  obtain ⟨f', hf', -⟩ := h.file hf
  exact ⟨f', hf'⟩

theorem get?_log_of_ne (t : Tree) {p q : Place} (h : q ≠ p) (r : Log.Record) :
    (t.log p r).get? q = t.get? q := by
  unfold log
  split
  · exact get?_put_of_ne t _ h
  · rfl

end Files.Tree

namespace Log.Hub

open Files (Path PathError Place Tree)

/-! ## Loggers by name -/

def ownName (name : String) : String := if isRoot name then rootName else name

theorem ownName_of_not_isRoot {name : String} (h : isRoot name = false) : ownName name = name := by
  rw [ownName, h, if_neg Bool.false_ne_true]

theorem ownName_eq_rootName_iff {name : String} : ownName name = rootName ↔ isRoot name = true := by
  by_cases h : isRoot name = true
  · simp [ownName, h]
  · have hne : name ≠ rootName := by
      rintro rfl
      exact h rfl
    simp [ownName, h, hne]

theorem find?_congr (h : Hub) {name other : String} (heq : ownName name = ownName other) :
    h.find? name = h.find? other := by
  have hroot : isRoot name = isRoot other := by
    rw [Bool.eq_iff_iff, ← ownName_eq_rootName_iff, ← ownName_eq_rootName_iff, heq]
  cases hother : isRoot other with
  | true =>
    rw [hother] at hroot
    rw [find?, find?, hroot, hother]
    rfl
  | false =>
    rw [hother] at hroot
    rw [ownName_of_not_isRoot hroot, ownName_of_not_isRoot hother] at heq
    rw [heq]

theorem find?_modify (h : Hub) {f : Logger → Logger} (hf : ∀ l, (f l).name = l.name)
    (target name : String) :
    (h.modify target f).find? name =
      (h.find? name).map fun l => if ownName name = ownName target then f l else l := by
  cases htarget : isRoot target with
  | true =>
    rw [ownName_eq_rootName_iff.mpr htarget]
    simp only [ownName_eq_rootName_iff, modify, htarget, if_true, find?]
    split
    · rfl
    · simp
  | false =>
    rw [ownName_of_not_isRoot htarget]
    cases hname : isRoot name with
    | true =>
      have hne : ownName name ≠ target := by
        rintro heq
        rw [← ownName_of_not_isRoot htarget, ownName_eq_rootName_iff.mpr hname, eq_comm,
          ownName_eq_rootName_iff, htarget] at heq
        cases heq
      simp [find?, hname, modify, htarget, hne]
    | false =>
      rw [ownName_of_not_isRoot hname, find?, find?, hname, if_neg Bool.false_ne_true,
        if_neg Bool.false_ne_true, find?_loggers_modify h htarget hf]
      cases hl : h.loggers.find? (·.name == name) with
      | none => rfl
      | some l => simp [name_of_find? hl]

theorem find?_modify_of_ne (h : Hub) (f : Logger → Logger) (hf : ∀ l, (f l).name = l.name)
    {target name : String} (hne : ownName name ≠ ownName target) :
    (h.modify target f).find? name = h.find? name := by
  rw [h.find?_modify hf]
  simp [hne]

theorem find?_addHandler_of_ne (h : Hub) (handler : Handler) {target name : String}
    (hne : ownName name ≠ ownName target) :
    (h.addHandler target handler).find? name = h.find? name :=
  h.find?_modify_of_ne (fun l => { l with handlers := l.handlers ++ [handler] }) (fun _ => rfl) hne

theorem find?_modify_self {h : Hub} (f : Logger → Logger) (hf : ∀ l, (f l).name = l.name)
    {name : String} {l : Logger} (hl : h.find? name = some l) :
    (h.modify name f).find? name = some (f l) := by
  rw [h.find?_modify hf, hl]
  simp

theorem find?_addHandler_self {h : Hub} {name : String} {l : Logger} (hl : h.find? name = some l)
    (handler : Handler) :
    (h.addHandler name handler).find? name =
      some { l with handlers := l.handlers ++ [handler] } :=
  find?_modify_self (fun l => { l with handlers := l.handlers ++ [handler] }) (fun _ => rfl) hl

theorem enter_of_find? {h : Hub} {name : String} {l : Logger} (hl : h.find? name = some l) :
    h.enter name = h := by
  rw [enter, hl]

theorem chain_of_find? {h : Hub} {name : String} {l : Logger} (hl : h.find? name = some l) :
    ∃ above, h.chain name = l :: above := by
  unfold find? at hl
  unfold chain
  split at hl
  · next hroot =>
    rw [if_pos hroot, Option.some.inj hl]
    exact ⟨[], rfl⟩
  · next hroot =>
    rw [if_neg hroot, hl]
    exact ⟨_, rfl⟩

/-! ## Records -/

theorem find?_enter_of_some {h : Hub} {name : String} {l : Logger} (hl : h.find? name = some l)
    (other : String) : (h.enter other).find? name = some l := by
  unfold enter
  split
  · exact hl
  · unfold find? at hl ⊢
    split
    · next hroot => rwa [if_pos hroot] at hl
    · next hroot =>
      rw [if_neg hroot] at hl
      rw [List.find?_append, hl, Option.some_or]

/-- A record is written to a file once by each handler for it that permits. -/
theorem get?_foldl_deliver (r : Record) {h : Hub} {p : Place} {f : Files.File}
    (hf : h.tree.get? p = some (.file f)) (handlers : List Handler) :
    (handlers.foldl (deliver r) h).tree.get? p = some (.file { f with
      entries := f.entries ++ List.replicate
        (handlers.countP fun d => d.sink == .file p && decide (d.level ≤ r.level)) r }) := by
  induction handlers generalizing h f with
  | nil => simpa using hf
  | cons d ds ih =>
    rw [List.foldl_cons, List.countP_cons]
    by_cases hwrites : d.sink = .file p ∧ d.level ≤ r.level
    · have hlogged : (deliver r h d).tree.get? p =
          some (.file { f with entries := f.entries ++ [r] }) := by
        rw [deliver, if_pos hwrites.2, hwrites.1]
        exact Tree.get?_log hf r
      rw [ih hlogged]
      simp [hwrites, List.replicate_succ]
    · have hkept : (deliver r h d).tree.get? p = some (.file f) := by
        unfold deliver
        split
        · next hlevel =>
          split
          · exact hf
          · next q hq =>
            have hne : p ≠ q := by
              rintro rfl
              exact hwrites ⟨hq, hlevel⟩
            exact (Tree.get?_log_of_ne _ hne r).trans hf
        · exact hf
      rw [ih hkept]
      simp [hwrites]

/-- A message changes no logger, and every file stays a file. -/
theorem emit_eq (h : Hub) (name : String) (level : Int) (message : String) :
    ∃ console tree, h.emit name level message =
        { h.enter name with console := console, tree := tree } ∧
      ∀ p, h.tree.HasFile p → tree.HasFile p := by
  unfold emit
  dsimp only
  split
  · obtain ⟨tree, htree⟩ := foldl_deliver ⟨level, if isRoot name then rootName else name, message⟩
      (((h.enter name).chain name).flatMap Logger.handlers) (h.enter name)
    refine ⟨_, tree, htree, ?_⟩
    rintro p ⟨f, hf⟩
    rw [← tree_enter h name] at hf
    have hwritten := get?_foldl_deliver ⟨level, if isRoot name then rootName else name, message⟩ hf
      (((h.enter name).chain name).flatMap Logger.handlers)
    rw [htree] at hwritten
    exact ⟨_, hwritten⟩
  · exact ⟨(h.enter name).console, (h.enter name).tree, rfl, fun p hp => by rwa [tree_enter]⟩

/-! ## Loggers that keep their handlers -/

/-- The logger `name` is `l`, and there are the files to which it writes. -/
structure Keeps (h : Hub) (name : String) (l : Logger) : Prop where
  found : h.find? name = some l
  files : ∀ p, ⟨.file p, Level.debug⟩ ∈ l.handlers → h.tree.HasFile p

/-- The logger takes everything and has its console handler, and the log file is still missing. -/
def begun (h : Hub) (name : String) (level : Int) : Hub :=
  ((h.enter name).modify name fun l => { l with level := some Level.debug }).addHandler name
    ⟨.console, level⟩

theorem tree_begun (h : Hub) (name : String) (level : Int) :
    (h.begun name level).tree = h.tree := by
  simp [begun]

theorem setup_eq_begun {h : Hub} {name : String} (hfree : h.Unconfigured name) (level : Int)
    (logFile : Option String) :
    h.setup name level logFile =
      match (h.begun name level).attachIfGiven name logFile with
      | (h', .error e) => (h', .error (.path e))
      | (h', .ok ()) =>
        if Decimal.Fits level then
          (h'.emit name Level.debug
            ("Logger initialized: " ++ name ++ " (console " ++ Level.name level ++ ")"), .ok ())
        else (h', .error (.fault .tooManyDigits)) := by
  rw [setup, if_pos ((h.isEmpty_handlers_enter_iff name).mpr hfree)]
  rfl

theorem setup_of_ne_nil {h : Hub} {name : String} {l : Logger} (hl : h.find? name = some l)
    (hset : l.handlers ≠ []) (level : Int) (logFile : Option String) :
    h.setup name level logFile = (h, .ok ()) := by
  have hset' : ¬ h.Unconfigured name := fun hfree => hset (hfree l hl)
  rw [setup, if_neg (mt (h.isEmpty_handlers_enter_iff name).mp hset'), enter_of_find? hl]

namespace Keeps

variable {h : Hub} {name : String} {l : Logger} (hk : h.Keeps name l)
include hk

theorem enter (other : String) : (h.enter other).Keeps name l where
  found := find?_enter_of_some hk.found other
  files p hp := by
    rw [tree_enter]
    exact hk.files p hp

theorem emit (other : String) (level : Int) (message : String) :
    (h.emit other level message).Keeps name l := by
  obtain ⟨console, tree, hemit, hfiles⟩ := h.emit_eq other level message
  rw [hemit]
  exact ⟨(hk.enter other).found, fun p hp => hfiles p (hk.files p hp)⟩

theorem submit (other : String) (level : Int) (message : String) :
    (h.submit other level message).1.Keeps name l := by
  unfold Hub.submit
  split
  · exact hk.enter other
  · exact hk.emit other level message

section
variable {other : String} (hne : ownName name ≠ ownName other)
include hne

theorem addHandler (handler : Handler) : (h.addHandler other handler).Keeps name l where
  found := (h.find?_addHandler_of_ne handler hne).trans hk.found
  files p hp := by
    rw [tree_addHandler]
    exact hk.files p hp

theorem begun (level : Int) : (h.begun other level).Keeps name l := by
  refine addHandler ⟨?_, fun p hp => ?_⟩ hne _
  · rw [find?_modify_of_ne _ (fun l => { l with level := some Level.debug }) (fun _ => rfl) hne]
    exact (hk.enter other).found
  · rw [tree_modify]
    exact (hk.enter other).files p hp

/-- Whether the file can be opened or not, the files that are there stay. -/
theorem attachIfGiven (logFile : Option String) :
    (h.attachIfGiven other logFile).1.Keeps name l := by
  unfold Hub.attachIfGiven
  split
  · exact hk
  · next path _ =>
    have hmade (p : Place) (hp : ⟨.file p, Level.debug⟩ ∈ l.handlers) :=
      (h.tree.spares_makeDirectories (Path.ofText path).parent p).hasFile (hk.files p hp)
    unfold attachFile
    generalize h.tree.makeDirectories (Path.ofText path).parent = made at hmade ⊢
    rcases made with ⟨t, e | ⟨⟩⟩
    · exact ⟨hk.found, hmade⟩
    · dsimp only
      rcases hopen : t.openLog (Path.ofText path) with e | ⟨t', place⟩
      · exact ⟨hk.found, hmade⟩
      · have hspares := (Tree.openLog_eq_ok hopen).2.1
        have hk' : Keeps { h with tree := t' } name l :=
          ⟨hk.found, fun p hp => hspares.hasFile (hmade p hp)⟩
        exact (hk'.addHandler hne _).emit _ _ _

end

variable (hset : l.handlers ≠ [])
include hset

/-- A set-up leaves loggers that have handlers alone, its own logger included. -/
theorem setup (other : String) (level : Int) (logFile : Option String) :
    (h.setup other level logFile).1.Keeps name l := by
  by_cases hfree : h.Unconfigured other
  · have hne : ownName name ≠ ownName other := fun heq =>
      hset (hfree l (h.find?_congr heq ▸ hk.found))
    have hattach := (hk.begun hne level).attachIfGiven hne logFile
    rw [setup_eq_begun hfree]
    generalize Hub.attachIfGiven _ other logFile = attached at hattach ⊢
    rcases attached with ⟨h', e | ⟨⟩⟩
    · exact hattach
    · dsimp only
      split
      · exact hattach.emit _ _ _
      · exact hattach
  · rw [Hub.setup, if_neg (mt (h.isEmpty_handlers_enter_iff other).mp hfree)]
    exact hk.enter other

/-- No call changes a logger that has handlers, and so no history does. -/
theorem after (calls : List Call) : (h.after calls).Keeps name l := by
  induction calls generalizing h with
  | nil => exact hk
  | cons call calls ih =>
    refine ih ?_
    cases call with
    | setup other level logFile => exact hk.setup hset other level logFile
    | log other level message => exact hk.submit other level message

end Keeps

/-- A logger that has been set up with a log file writes what is logged on it. -/
theorem Keeps.submit_written {h : Hub} {name : String} {l : Logger} (hk : h.Keeps name l)
    (hlevel : l.level = some Level.debug) {p : Place} (hp : ⟨.file p, Level.debug⟩ ∈ l.handlers)
    {level : Int} (hdebug : Level.debug ≤ level) (hfits : Decimal.Fits level) (message : String) :
    ∃ f n h', h.tree.get? p = some (.file f) ∧ 0 < n ∧
      h.submit name level message = (h', .ok ()) ∧
      h'.tree.get? p = some (.file { f with
        entries := f.entries ++ List.replicate n ⟨level, ownName name, message⟩ }) := by
  obtain ⟨f, hf⟩ := hk.files p hp
  obtain ⟨above, hchain⟩ := chain_of_find? hk.found
  have htakes : h.takes name level := by
    rw [takes, hchain, effectiveLevel, List.findSome?_cons, hlevel]
    exact ⟨Int.lt_of_lt_of_le (by decide) hdebug, hdebug⟩
  have hemit : h.emit name level message = ((h.chain name).flatMap Logger.handlers).foldl
      (deliver ⟨level, ownName name, message⟩) h := by
    simp only [Hub.emit, enter_of_find? hk.found, if_pos htakes]
    rfl
  have hsubmit : h.submit name level message = (h.emit name level message, .ok ()) := by
    rw [Hub.submit, if_neg (by simp [hfits])]
  have hmem : ⟨.file p, Level.debug⟩ ∈ (h.chain name).flatMap Logger.handlers := by
    rw [hchain, List.flatMap_cons]
    exact List.mem_append_left _ hp
  have hwritten := get?_foldl_deliver ⟨level, ownName name, message⟩ hf
    ((h.chain name).flatMap Logger.handlers)
  rw [← hemit] at hwritten
  exact ⟨f, _, _, hf, List.countP_pos_iff.mpr ⟨_, hmem, by simpa using hdebug⟩, hsubmit, hwritten⟩

/-! ## The first set-up -/

theorem attachFile_of_logError?_eq_some {h : Hub} {path : Path} {e : PathError}
    (hlog : h.tree.logError? path = some e) (name : String) :
    ∃ t, h.attachFile name path = ({ h with tree := t }, .error e) := by
  have herror := (h.attachFile_eq_error_iff name path e).mpr hlog
  unfold attachFile at herror ⊢
  rcases hmake : h.tree.makeDirectories path.parent with ⟨t, e' | ⟨⟩⟩
  · simp only [hmake] at herror ⊢
    exact ⟨t, by rw [herror]⟩
  · simp only [hmake] at herror ⊢
    rcases hopen : t.openLog path with e' | ⟨t', place⟩
    · simp only [hopen] at herror ⊢
      exact ⟨t, by rw [herror]⟩
    · simp [hopen] at herror

theorem attachIfGiven_of_ne_empty (h : Hub) (name : String) {path : String} (hpath : path ≠ "") :
    h.attachIfGiven name (some path) = h.attachFile name (.ofText path) := by
  simp [attachIfGiven, Option.filter, hpath]

section
variable {h : Hub} {name : String} (hfree : h.Unconfigured name) (level : Int)
include hfree

theorem find?_begun : ∃ l, (h.begun name level).find? name = some l ∧
    l.level = some Level.debug ∧ l.handlers = outlets level none := by
  obtain ⟨l, hl⟩ : ∃ l, (h.enter name).find? name = some l := ⟨_, h.find?_enter name⟩
  have hnone : l.handlers = [] := hfree.enter l hl
  have hlevel := find?_modify_self (fun l => { l with level := some Level.debug }) (fun _ => rfl) hl
  exact ⟨_, find?_addHandler_self hlevel _, rfl, by rw [hnone]; rfl⟩

variable {path : String} (hpath : path ≠ "")
include hpath

theorem setup_refused {e : PathError} (hlog : h.tree.logError? (.ofText path) = some e) :
    ∃ h' l, h.setup name level (some path) = (h', .error (.path e)) ∧ h'.Keeps name l ∧
      l.handlers = outlets level none := by
  rw [← tree_begun h name level] at hlog
  obtain ⟨l, hl, -, hhandlers⟩ := find?_begun hfree level
  obtain ⟨t, hattach⟩ := attachFile_of_logError?_eq_some hlog name
  rw [setup_eq_begun hfree, attachIfGiven_of_ne_empty _ name hpath, hattach]
  refine ⟨_, l, rfl, ⟨hl, fun p hp => ?_⟩, hhandlers⟩
  simp [hhandlers, outlets] at hp

/-- A log file that can be had is there and attached, even if the message with which the set-up ends
cannot be written. -/
theorem setup_opened (hlog : h.tree.logError? (.ofText path) = none) :
    ∃ h' l, h.setup name level (some path) =
        (h', if Decimal.Fits level then .ok () else .error (.fault .tooManyDigits)) ∧
      h'.Keeps name l ∧ l.level = some Level.debug ∧
      l.handlers = outlets level (some ((Path.ofText path).place h.tree.home)) := by
  rw [← tree_begun h name level] at hlog
  obtain ⟨l, hl, hlevel, hhandlers⟩ := find?_begun hfree level
  obtain ⟨t, hopened, hattach⟩ :=
    attachFile_of_logError?_eq_none (Path.normal_ofText path) hlog name
  obtain ⟨f, hf, -⟩ := hopened.file
  rw [tree_begun] at hf hattach
  have hfound := find?_addHandler_self (h := { h.begun name level with tree := t }) hl
    ⟨.file ((Path.ofText path).place h.tree.home), Level.debug⟩
  have hk : ({ h.begun name level with tree := t }.addHandler name
      ⟨.file ((Path.ofText path).place h.tree.home), Level.debug⟩).Keeps name
        { l with handlers := outlets level (some ((Path.ofText path).place h.tree.home)) } := by
    refine ⟨?_, fun p hp => ?_⟩
    · rw [hhandlers] at hfound
      exact hfound
    · obtain rfl : p = (Path.ofText path).place h.tree.home := by simpa [outlets] using hp
      exact ⟨f, by rw [tree_addHandler, hf]⟩
  rw [setup_eq_begun hfree, attachIfGiven_of_ne_empty _ name hpath, hattach]
  dsimp only
  split
  · exact ⟨_, _, rfl, (hk.emit _ _ _).emit _ _ _, hlevel, rfl⟩
  · exact ⟨_, _, rfl, hk.emit _ _ _, hlevel, rfl⟩

end

/-- The first set-up of a logger settles its handlers for good. If the log file cannot be had, the
set-up fails, but the console handler is there, and no later set-up of the logger does anything. If
it can be had, it is attached too, and every later message of the logger is written to it. Whatever
else is set up or logged in between makes no difference. -/
theorem setup_settles (h : Hub) {name : String} (hfree : h.Unconfigured name) (level : Int)
    {path : String} (hpath : path ≠ "") :
    ∃ h₁ result l, h.setup name level (some path) = (h₁, result) ∧
      (∀ e, h.tree.logError? (.ofText path) = some e →
        result = .error (.path e) ∧ l.handlers = [⟨.console, level⟩]) ∧
      (h.tree.logError? (.ofText path) = none →
        (result = .ok () ↔ Decimal.Fits level) ∧
        l.handlers =
          [⟨.console, level⟩, ⟨.file ((Path.ofText path).place h.tree.home), Level.debug⟩]) ∧
      ∀ calls,
        (h₁.after calls).find? name = some l ∧
        (∀ level' logFile, (h₁.after calls).setup name level' logFile = (h₁.after calls, .ok ())) ∧
        ∀ p, ⟨.file p, Level.debug⟩ ∈ l.handlers →
          ∀ level', Level.debug ≤ level' → Decimal.Fits level' → ∀ message,
            ∃ f n h₂, (h₁.after calls).tree.get? p = some (.file f) ∧ 0 < n ∧
              (h₁.after calls).submit name level' message = (h₂, .ok ()) ∧
              h₂.tree.get? p = some (.file { f with
                entries := f.entries ++ List.replicate n ⟨level', ownName name, message⟩ }) := by
  cases hlog : h.tree.logError? (.ofText path) with
  | some e =>
    obtain ⟨h₁, l, hsetup, hk, hhandlers⟩ := setup_refused hfree level hpath hlog
    have hset : l.handlers ≠ [] := by simp [hhandlers, outlets]
    refine ⟨h₁, _, l, hsetup, ?_, ?_, fun calls => ?_⟩
    · rintro _ ⟨⟩
      exact ⟨rfl, hhandlers⟩
    · rintro ⟨⟩
    · have hk' := hk.after hset calls
      refine ⟨hk'.found, setup_of_ne_nil hk'.found hset, fun p hp => ?_⟩
      simp [hhandlers, outlets] at hp
  | none =>
    obtain ⟨h₁, l, hsetup, hk, hlevel, hhandlers⟩ := setup_opened hfree level hpath hlog
    have hset : l.handlers ≠ [] := by simp [hhandlers, outlets]
    refine ⟨h₁, _, l, hsetup, ?_, fun _ => ⟨?_, hhandlers⟩, fun calls => ?_⟩
    · rintro _ ⟨⟩
    · by_cases hfits : Decimal.Fits level <;> simp [hfits]
    · have hk' := hk.after hset calls
      exact ⟨hk'.found, setup_of_ne_nil hk'.found hset,
        fun p hp level' hdebug hfits message => hk'.submit_written hlevel hp hdebug hfits message⟩

/-- The log file lies in a directory that is made for it. Another logger fails to be set up, and
then a message of the lowest level is logged. -/
theorem setup_settles_below_directory :
    let h := fresh ((Tree.empty ["work"]).withFile "taken" .empty)
    let p : Place := ⟨["work", "logs", "run.log"]⟩
    h.Unconfigured "a" ∧ "logs/run.log" ≠ "" ∧ h.tree.logError? (.ofText "logs/run.log") = none ∧
      ∃ (h₁ h₂ : Hub) (f : Files.File) (n : Nat),
        h.setup "a" 30 (some "logs/run.log") = (h₁, .ok ()) ∧
        ((h₁.after [.setup "a.b" 10 (some "taken/x")]).find? "a").map Logger.handlers =
          some [⟨.console, 30⟩, ⟨.file p, 10⟩] ∧ 0 < n ∧
        (h₁.after [.setup "a.b" 10 (some "taken/x")]).submit "a" 10 "m" = (h₂, .ok ()) ∧
        h₂.tree.get? p = some (.file { f with
          entries := f.entries ++ List.replicate n ⟨10, "a", "m"⟩ }) := by
  intro h p
  have hfree : h.Unconfigured "a" := fun _ hl => nomatch hl
  have hpath : "logs/run.log" ≠ "" := by decide
  have hlog : h.tree.logError? (.ofText "logs/run.log") = none := by decide +kernel
  obtain ⟨h₁, result, l, hsetup, -, hopened, hafter⟩ := setup_settles h hfree 30 hpath
  obtain ⟨hresult, hhandlers⟩ := hopened hlog
  obtain ⟨hl, -, hwritten⟩ := hafter [.setup "a.b" 10 (some "taken/x")]
  obtain ⟨f, n, h₂, -, hn, hsubmit, hfile⟩ := hwritten p
    (by rw [hhandlers]; exact List.mem_cons_of_mem _ List.mem_cons_self) 10 (by decide) (by decide)
    "m"
  rw [hresult.mpr (by decide)] at hsetup
  refine ⟨hfree, hpath, hlog, h₁, h₂, f, n, hsetup, ?_, hn, hsubmit, hfile⟩
  rw [hl, Option.map_some, hhandlers]
  rfl

/-- The log file is to be put below a file. A second try, with a path that can be had, attaches no
handler, and what is logged then is not written. -/
theorem setup_retry_ignored :
    let h := fresh ((Tree.empty ["work"]).withFile "taken" .empty)
    let failed := h.setup "asmvm" 30 (some "taken/run.log")
    let again := failed.1.setup "asmvm" 30 (some "good.log")
    (h.find? "asmvm").isNone = true ∧ failed.2 = .error (.path (.os .alreadyExists)) ∧
      (failed.1.find? "asmvm").map Logger.handlers = some [⟨.console, 30⟩] ∧
      failed.1.tree.logError? (.ofText "good.log") = none ∧ again.2 = .ok () ∧
      (again.1.find? "asmvm").map Logger.handlers = some [⟨.console, 30⟩] ∧
      ((again.1.submit "asmvm" 40 "m").1.tree.get? ⟨["work", "good.log"]⟩).isNone = true :=
  ⟨rfl, rfl, rfl, rfl, rfl, rfl, rfl⟩

end Log.Hub

end RegisterMachine
