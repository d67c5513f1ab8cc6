import RegisterMachine.Proofs.Assembly
import RegisterMachine.Proofs.Log.Setup

/-!
# Sources beside a log file

A log file that is opened and written to leaves all other files as they are, and the ways to them:
`Tree.Spares` is what then holds between the trees before and after, and also if the directories for
the file could not all be made (`spares_makeDirectories`). A source that was there before is still
read with the same content (`Stored.of_spares`), unless it is the log file itself.
-/

namespace RegisterMachine.Files

namespace Tree

/-! ## Trees that differ in one file -/

/-- Every directory stays one, every file stays one, and no file changes but the one at `p`. -/
structure Spares (p : Place) (t t' : Tree) : Prop where
  home : t'.home = t.home
  directory : ∀ {q}, t.get? q = some .directory → t'.get? q = some .directory
  file : ∀ {q f}, t.get? q = some (.file f) →
    ∃ f', t'.get? q = some (.file f') ∧ (q ≠ p → f' = f)

namespace Spares

variable {p : Place} {t t' t'' : Tree}

theorem refl (p : Place) (t : Tree) : Spares p t t :=
  ⟨rfl, id, fun h => ⟨_, h, fun _ => rfl⟩⟩

theorem trans (h : Spares p t t') (h' : Spares p t' t'') : Spares p t t'' where
  home := h'.home.trans h.home
  directory hq := h'.directory (h.directory hq)
  file hq := by
    obtain ⟨f', hf', hsame⟩ := h.file hq
    obtain ⟨f'', hf'', hsame'⟩ := h'.file hf'
    exact ⟨f'', hf'', fun hne => (hsame' hne).trans (hsame hne)⟩

theorem of_grown {s : Place} {cs : List String} (h : Grown t t' s cs) (p : Place) :
    Spares p t t' where
  home := h.home
  directory := h.get?_of_some
  file hq := ⟨_, h.get?_of_some hq, fun _ => rfl⟩

theorem put (t : Tree) {p : Place} (f : File) (h : t.get? p ≠ some .directory) :
    Spares p t (t.put p (.file f)) where
  home := rfl
  directory := by
    intro q hq
    rw [get?_put_of_ne t _ (by rintro rfl; exact h hq), hq]
  file := by
    intro q f' hq
    by_cases hp : q = p
    · subst hp
      exact ⟨f, get?_put_self _ h, fun hcontra => absurd rfl hcontra⟩
    · exact ⟨f', (get?_put_of_ne t _ hp).trans hq, fun _ => rfl⟩

theorem exists_get?_eq (h : Spares p t t') {q : Place} {e : Entry} (hq : t.get? q = some e) :
    ∃ e', t'.get? q = some e' := by
  cases e with
  | directory => exact ⟨_, h.directory hq⟩
  | file f =>
    obtain ⟨f', hf', -⟩ := h.file hq
    exact ⟨_, hf'⟩

theorem walk_eq (h : Spares p t t') {s q : Place} {cs : List String}
    (hwalk : t.walk s cs = .ok q) : t'.walk s cs = .ok q := by
  induction cs generalizing s with
  | nil => exact hwalk
  | cons c cs ih =>
    rcases hs : t.get? s with _ | _ | f
    · simp [walk, hs] at hwalk
    · simp only [walk, hs, h.directory hs] at hwalk ⊢
      split_ifs at hwalk ⊢ with hstay hup hlong
      · exact ih hwalk
      · exact ih hwalk
      · cases hchild : t.get? (s.child c) with
        | none => simp [hchild] at hwalk
        | some e =>
          obtain ⟨e', he'⟩ := h.exists_get?_eq hchild
          simp only [hchild, he'] at hwalk ⊢
          exact ih hwalk
    · simp [walk, hs] at hwalk

end Spares

/-! ## Making directories -/

/-- A directory is only put where there is nothing. -/
theorem spares_makeDirectory {t t' : Tree} {path : Path} (h : t.makeDirectory path = .ok t')
    (p : Place) : Spares p t t' := by
  obtain ⟨⟨⟩, -, h⟩ := bind_eq_ok_iff.mp h
  split at h
  · cases h
  · next name _ =>
    obtain ⟨q, -, h⟩ := bind_eq_ok_iff.mp h
    split at h
    · split_ifs at h
      split at h
      · cases h
      · next hnone =>
        cases h
        have hkept {r : Place} {e : Entry} (hr : t.get? r = some e) :
            (t.put (q.child name) .directory).get? r = some e := by
          rw [get?_put_of_ne t _ (by rintro rfl; cases hr.symm.trans hnone), hr]
        exact ⟨rfl, hkept, fun hr => ⟨_, hkept hr, fun _ => rfl⟩⟩
    · cases h
    · cases h

theorem spares_ensureDirectory (t : Tree) (path : Path) (p : Place) :
    Spares p t (t.ensureDirectory path).1 := by
  unfold ensureDirectory
  split
  · next hmake => exact spares_makeDirectory hmake p
  · exact .refl p t
  · exact .refl p t
  · unfold forgive
    split <;> exact .refl p t

theorem spares_ensureFrom (t : Tree) (root : String) (names : List String) (p : Place) :
    Spares p t (t.ensureFrom root names).1 := by
  induction names generalizing t with
  | nil => exact t.spares_ensureDirectory _ p
  | cons name above ih =>
    unfold ensureFrom
    dsimp only
    split
    · have habove := ih t
      split
      · next t' habove' =>
        rw [habove'] at habove
        exact habove.trans (t'.spares_ensureDirectory _ p)
      · exact habove
    · exact t.spares_ensureDirectory _ p

/-- Whether all directories could be made or not, nothing that was there is lost. -/
theorem spares_makeDirectories (t : Tree) (path : Path) (p : Place) :
    Spares p t (t.makeDirectories path).1 :=
  t.spares_ensureFrom path.root path.parts.reverse p

/-! ## Sources -/

/-- Under `path` there is the file `f` to read, and it is at `q`. -/
structure Stored (t : Tree) (path : String) (q : Place) (f : File) : Prop where
  text : checkText path = .ok ()
  walk : t.walk (t.home.start (path.toList.head? == some '/')) (Path.components path) = .ok q
  file : t.get? q = some (.file f)

theorem openSource_eq_ok_iff {t : Tree} {path : String} {f : File} :
    t.openSource path = .ok f ↔ ∃ q, t.Stored path q f := by
  constructor
  · intro h
    obtain ⟨e, hfind, h⟩ := bind_eq_ok_iff.mp h
    obtain ⟨⟨⟩, htext, hfind⟩ := bind_eq_ok_iff.mp hfind
    obtain ⟨q, hwalk, hfind⟩ := bind_eq_ok_iff.mp hfind
    cases hentry : t.get? q with
    | none =>
      simp only [hentry] at hfind
      cases hfind
    | some e' =>
      simp only [hentry] at hfind
      cases hfind
      cases e with
      | directory => cases h
      | file f' =>
        cases h
        exact ⟨q, htext, hwalk, hentry⟩
  · rintro ⟨q, htext, hwalk, hfile⟩
    simp [openSource, find, htext, hwalk, hfile, bind, Except.bind]

theorem Stored.of_spares {p q : Place} {t t' : Tree} {path : String} {f : File}
    (h : t.Stored path q f) (hspares : Spares p t t') (hne : q ≠ p) : t'.Stored path q f where
  text := h.text
  walk := hspares.home ▸ hspares.walk_eq h.walk
  file := by
    obtain ⟨f', hf', hsame⟩ := hspares.file h.file
    rw [hf', hsame hne]

/-! ## Writing to a log file -/

section
variable {t : Tree} {p : Place} {f : File} (h : t.get? p = some (.file f))
include h

theorem get?_log (r : Log.Record) :
    (t.log p r).get? p = some (.file { f with entries := f.entries ++ [r] }) := by
  have hfree : t.get? p ≠ some .directory := by simp [h]
  simp only [log, h]
  exact get?_put_self _ hfree

theorem spares_log (r : Log.Record) : Spares p t (t.log p r) := by
  simp only [log, h]
  exact .put t _ (by simp [h])

end

/-- Entries are added in order, and other files stay as they are. -/
theorem foldl_log {t : Tree} {p : Place} {f : File} (h : t.get? p = some (.file f))
    (rs : List Log.Record) :
    (rs.foldl (log · p) t).get? p = some (.file { f with entries := f.entries ++ rs }) ∧
      Spares p t (rs.foldl (log · p) t) := by
  induction rs generalizing t f with
  | nil => exact ⟨by simpa using h, .refl p t⟩
  | cons r rs ih =>
    obtain ⟨hfile, hspares⟩ := ih (get?_log h r)
    refine ⟨?_, (spares_log h r).trans hspares⟩
    simpa using hfile

/-! ## Opening a log file -/

theorem openLog_eq_ok {t t' : Tree} {path : Path} {p : Place} (h : t.openLog path = .ok (t', p)) :
    p = path.place t.home ∧ Spares p t t' ∧
      ∃ f, t'.get? p = some (.file f) ∧ (t.get? p = none → f = ⟨.empty, []⟩) := by
  obtain ⟨⟨⟩, -, h⟩ := bind_eq_ok_iff.mp h
  split at h
  · split at h
    · cases h
    · next f hfile =>
      cases h
      exact ⟨rfl, .refl _ t, f, hfile, fun hnone => by cases hfile.symm.trans hnone⟩
    · next hnone =>
      cases h
      have hfree : t.get? (path.place t.home) ≠ some .directory := by
        intro hdir
        cases hdir.symm.trans hnone
      exact ⟨rfl, .put t _ hfree, _, get?_put_self _ hfree, fun _ => rfl⟩
  · cases h

/-- The tree in which the log file is open, with its directories. -/
structure Opened (t : Tree) (path : Path) (t' : Tree) : Prop where
  spares : Spares (path.place t.home) t t'
  file : ∃ f, t'.get? (path.place t.home) = some (.file f) ∧
    (t.get? (path.place t.home) = none → f = ⟨.empty, []⟩)

theorem opened_of_logError?_eq_none {t : Tree} {path : Path} (hp : path.Normal)
    (h : t.logError? path = none) :
    ∃ made t', t.makeDirectories path.parent = (made, .ok ()) ∧
      made.openLog path = .ok (t', path.place t.home) ∧ t.Opened path t' := by
  unfold logError? at h
  rcases hmake : t.makeDirectories path.parent with ⟨made, e | ⟨⟩⟩
  · simp [hmake] at h
  · rcases hopen : made.openLog path with e | ⟨t', p⟩
    · simp [hmake, hopen] at h
    · obtain ⟨rfl, hspares, f, hfile, hempty⟩ := openLog_eq_ok hopen
      have hgrown : Grown t made (path.parent.start t.home) path.parent.parts := by
        by_cases hnul : '\x00' ∈ path.parent.text.toList
        · cases (makeDirectories_of_nul t hnul).symm.trans hmake
        · by_cases hlong : pathLimit ≤ path.parent.text.utf8ByteSize
          · cases (makeDirectories_of_long t hnul hlong).symm.trans hmake
          · have hmade := made_makeDirectories t hp.parent hnul (Nat.not_le.mp hlong)
            rw [hmake] at hmade
            cases hmade with
            | done hgrown _ => exact hgrown
      rw [hgrown.home] at hspares hfile hempty hopen
      refine ⟨made, t', rfl, hopen, (Spares.of_grown hgrown _).trans hspares, f, hfile, ?_⟩
      intro hnone
      rcases hgrown.get?_eq (path.place t.home) with heq | ⟨-, hdir, -⟩
      · exact hempty (heq.trans hnone)
      -- a directory made on the way cannot have been opened as a file
      · cases (hspares.directory hdir).symm.trans hfile

end Tree

end RegisterMachine.Files
