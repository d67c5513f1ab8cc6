import RegisterMachine.Log.Hub
import RegisterMachine.Proofs.Files.Directories

/-!
# Errors while a logger is set up

A logger without handlers gets its log file opened, with the directories on the way to it. What can
go wrong there is a matter of the path and of the files: `Tree.logError?` is the error, and
`exists_logError?_iff` says when it is one of the operating system. Nothing else of the set-up
touches the files (`setup_eq_path_error_iff`).
-/

namespace RegisterMachine

namespace Files

/-! ## Log files -/

/-- The text of a path as it leads from the root, without `..`. -/
def Tree.fullText (t : Tree) (path : Path) : String :=
  Path.text ⟨if path.root.isEmpty then "/" else path.root, (path.place t.home).names⟩

namespace Tree

/-- The error that a request for a log file ends with. -/
def logError? (t : Tree) (path : Path) : Option PathError :=
  match t.makeDirectories path.parent with
  | (_, .error e) => some e
  | (t', .ok ()) =>
    match t'.openLog path with
    | .error e => some e
    | .ok _ => none

/-- The directory of a path cannot be had: its text is too long, or the way to it is blocked. -/
def RefusesDirectory (t : Tree) (path : Path) : Prop :=
  pathLimit ≤ path.text.utf8ByteSize ∨ t.Blocked (path.start t.home) path.parts

/-- A log file cannot be had although its directory can: its path or its name is too long, or there
is a directory in its place, perhaps one that was only made on the way. -/
def RefusesFile (t : Tree) (path : Path) : Prop :=
  pathLimit ≤ (t.fullText path).utf8ByteSize ∨
    (∃ name, (path.place t.home).names.getLast? = some name ∧ nameLimit < name.utf8ByteSize) ∨
    t.get? (path.place t.home) = some .directory ∨
    ∃ front, front <+: path.parent.parts ∧ path.place t.home = (path.start t.home).follow front

/-- The operating system refuses the log file, at its directory or at itself. A text with the
character 0 in it is never passed on to it. -/
def RefusesLog (t : Tree) (path : Path) : Prop :=
  '\x00' ∉ path.parent.text.toList ∧
    (t.RefusesDirectory path.parent ∨ '\x00' ∉ (t.fullText path).toList ∧ t.RefusesFile path)

theorem exists_openLog_error_iff (t : Tree) (path : Path) :
    (∃ e, t.openLog path = .error (.os e)) ↔
      '\x00' ∉ (t.fullText path).toList ∧
        (pathLimit ≤ (t.fullText path).utf8ByteSize ∨
          (∃ name, (path.place t.home).names.getLast? = some name ∧ nameLimit < name.utf8ByteSize) ∨
          t.get? (path.place t.home) = some .directory) := by
  have hfull : Path.text ⟨if path.root.isEmpty then "/" else path.root,
      (path.place t.home).names⟩ = t.fullText path := rfl
  have hname : (∃ name, (path.place t.home).names.getLast? = some name ∧
      nameLimit < name.utf8ByteSize) ↔
        ¬ ((path.place t.home).names.getLast?.map String.utf8ByteSize).getD 0 ≤ nameLimit := by
    cases (path.place t.home).names.getLast? <;> simp
  have hne : t.fullText path ≠ "" := Path.text_ne_empty _
  rw [hname]
  simp only [openLog, hfull]
  by_cases hnul : '\x00' ∈ (t.fullText path).toList
  · simp [checkText, hnul, bind, Except.bind]
  · by_cases hlong : pathLimit ≤ (t.fullText path).utf8ByteSize
    · simp [checkText, hnul, hne, hlong, bind, Except.bind]
    · have htext := (checkText_eq_ok_iff hne).mpr ⟨hnul, Nat.not_le.mp hlong⟩
      rw [htext]
      by_cases hshort :
          ((path.place t.home).names.getLast?.map String.utf8ByteSize).getD 0 ≤ nameLimit
      · rcases hentry : t.get? (path.place t.home) with _ | _ | f <;>
          simp [bind, Except.bind, hnul, hlong, hshort]
      · simp [bind, Except.bind, hnul, hshort]

theorem exists_logError?_iff (t : Tree) {path : Path} (hp : path.Normal) :
    (∃ e, t.logError? path = some (.os e)) ↔ t.RefusesLog path := by
  unfold logError? RefusesLog RefusesDirectory
  by_cases hnul : '\x00' ∈ path.parent.text.toList
  · simp [makeDirectories_of_nul t hnul, hnul]
  · by_cases hlong : pathLimit ≤ path.parent.text.utf8ByteSize
    · simp [makeDirectories_of_long t hnul hlong, hnul, hlong]
    · have hmade := made_makeDirectories t hp.parent hnul (Nat.not_le.mp hlong)
      generalize t.makeDirectories path.parent = made at hmade
      cases hmade with
      | refused _ hblocked => simp [hnul, hblocked]
      | @done t' hgrown hway =>
        -- The file is looked for in `t'`, which agrees with `t` up to the directories on the way.
        have hclear : ¬ t.Blocked (path.parent.start t.home) path.parent.parts :=
          mt hgrown.blocked_iff.mpr hway.not_blocked
        have hfull : t'.fullText path = t.fullText path := by rw [fullText, fullText, hgrown.home]
        have hopen := t'.exists_openLog_error_iff path
        rw [hfull, hgrown.home, hgrown.get?_directory_iff hway] at hopen
        have herror : (∃ e, (match t'.openLog path with
            | .error e => some e
            | .ok _ => none) = some (PathError.os e)) ↔ ∃ e, t'.openLog path = .error (.os e) := by
          cases t'.openLog path <;> simp
        simp only [herror, hopen, hnul, hlong, hclear, not_false_eq_true, true_and, false_or,
          RefusesFile]
        rfl

end Tree

end Files

namespace Log.Hub

open Files (Path PathError)

/-- The logger `name` has no handler, or there is no such logger. -/
def Unconfigured (h : Hub) (name : String) : Prop :=
  ∀ l, h.find? name = some l → l.handlers = []

theorem find?_enter (h : Hub) (name : String) :
    (h.enter name).find? name = some ((h.find? name).getD ⟨name, none, []⟩) := by
  unfold enter
  cases hfind : h.find? name with
  | some l => simp [hfind]
  | none =>
    unfold find? at hfind ⊢
    split at hfind
    · cases hfind
    · next hroot => simp [hroot, List.find?_append, hfind]

theorem isEmpty_handlers_enter_iff (h : Hub) (name : String) :
    ((h.enter name).find? name).map (fun l => l.handlers.isEmpty) = some true ↔
      h.Unconfigured name := by
  rw [find?_enter]
  cases hfind : h.find? name with
  | none => simp [Unconfigured, hfind]
  | some l => simp [Unconfigured, hfind]

@[simp] theorem tree_enter (h : Hub) (name : String) : (h.enter name).tree = h.tree := by
  unfold enter
  split <;> rfl

@[simp] theorem tree_modify (h : Hub) (name : String) (f : Logger → Logger) :
    (h.modify name f).tree = h.tree := by
  unfold modify
  split <;> rfl

@[simp] theorem tree_addHandler (h : Hub) (name : String) (handler : Handler) :
    (h.addHandler name handler).tree = h.tree :=
  h.tree_modify name _

theorem attachFile_eq_error_iff (h : Hub) (name : String) (path : Path) (e : PathError) :
    (h.attachFile name path).2 = .error e ↔ h.tree.logError? path = some e := by
  unfold attachFile Files.Tree.logError?
  rcases h.tree.makeDirectories path.parent with ⟨t, e' | ⟨⟩⟩
  · simp
  · rcases hopen : t.openLog path with e' | ⟨t', place⟩ <;> simp [hopen]

theorem attachIfGiven_eq_error_iff (h : Hub) (name : String) (logFile : Option String)
    (e : PathError) :
    (h.attachIfGiven name logFile).2 = .error e ↔
      ∃ path, logFile = some path ∧ path ≠ "" ∧ h.tree.logError? (.ofText path) = some e := by
  unfold attachIfGiven
  cases logFile with
  | none => simp
  | some path =>
    by_cases hpath : path = ""
    · simp [hpath, Option.filter]
    · simp [hpath, Option.filter, attachFile_eq_error_iff]

theorem setup_eq_path_error_iff (h : Hub) (name : String) (level : Int) (logFile : Option String)
    (e : PathError) :
    (h.setup name level logFile).2 = .error (.path e) ↔
      h.Unconfigured name ∧
        ∃ path, logFile = some path ∧ path ≠ "" ∧ h.tree.logError? (.ofText path) = some e := by
  unfold setup
  by_cases hfresh : h.Unconfigured name
  · rw [if_pos ((h.isEmpty_handlers_enter_iff name).mpr hfresh)]
    have hattach := attachIfGiven_eq_error_iff (((h.enter name).modify name fun l =>
      { l with level := some Level.debug }).addHandler name ⟨.console, level⟩) name logFile e
    rw [tree_addHandler, tree_modify, tree_enter] at hattach
    rw [and_iff_right hfresh, ← hattach]
    dsimp only
    generalize attachIfGiven _ name logFile = attached
    rcases attached with ⟨h', e' | ⟨⟩⟩
    · simp
    · dsimp only
      split <;> simp
  · rw [if_neg (mt (h.isEmpty_handlers_enter_iff name).mp hfresh)]
    simp [hfresh]

/-- Without a log file, nothing can go wrong but the name of the level. -/
theorem setup_none (h : Hub) (name : String) {level : Int} (hlevel : Decimal.Fits level) :
    ∃ h', h.setup name level none = (h', .ok ()) := by
  unfold setup
  dsimp only
  split
  · simp only [attachIfGiven, Option.filter]
    exact ⟨_, rfl⟩
  · exact ⟨_, rfl⟩

end Log.Hub

end RegisterMachine
