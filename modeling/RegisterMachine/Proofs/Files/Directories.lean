import RegisterMachine.Files.Tree
import RegisterMachine.Proofs.Files.Path

/-!
# Making directories

Whether the directories of a path can be made is a matter of the names on its way. The way is
`Blocked` if one of them is too long or is that of a file; otherwise whatever is missing is made and
nothing else changes (`made_ensureFrom`).

* `Walked`: the ways in which following a path can end.
* `Grown`: the same tree with some of the places on a way made directories.
* `Made`: what becomes of a request for directories.
-/

namespace RegisterMachine.Files

open Files.Path (Proper Normal)

theorem Place.follow_append (p : Place) (cs ds : List String) :
    p.follow (cs ++ ds) = (p.follow cs).follow ds := by
  induction cs generalizing p with
  | nil => rfl
  | cons c cs ih => exact ih _

namespace Tree

theorem get?_of_isAbove {t : Tree} {p : Place} (h : p.isAbove t.home = true) :
    t.get? p = some .directory := if_pos h

theorem get?_put_self {t : Tree} {p : Place} (e : Entry) (h : t.get? p ≠ some .directory) :
    (t.put p e).get? p = some e := by
  have hplace : p.isAbove t.home = false := Bool.eq_false_iff.mpr (mt get?_of_isAbove h)
  have hnone : (t.entries.filter (·.1 != p)).find? (·.1 == p) = none := by
    rw [List.find?_eq_none]
    intro q hq
    simpa using (List.mem_filter.mp hq).2
  simp [get?, put, hplace, List.find?_append, hnone]

theorem get?_put_of_ne (t : Tree) {p q : Place} (e : Entry) (h : q ≠ p) :
    (t.put p e).get? q = t.get? q := by
  have hfind : (t.entries.filter (·.1 != p)).find? (·.1 == q) = t.entries.find? (·.1 == q) := by
    rw [List.find?_filter]
    congr 1
    funext r
    by_cases hr : r.1 = q
    · simp [hr, h]
    · simp [hr]
  simp [get?, put, List.find?_append, hfind, Ne.symm h]

/-! ## Accessible places -/

/-- The place is a directory, and so is all above it, where `..` may lead. -/
def Accessible (t : Tree) (p : Place) : Prop :=
  ∀ q : Place, q.names <+: p.names → t.get? q = some .directory

section
variable {t : Tree} {p : Place}

theorem accessible_start (t : Tree) (absolute : Bool) : t.Accessible (t.home.start absolute) := by
  intro q hq
  apply get?_of_isAbove
  rw [Place.isAbove, List.isPrefixOf_iff_prefix]
  cases absolute with
  | false => exact hq
  | true => rw [List.prefix_nil.mp hq]; exact List.nil_prefix

namespace Accessible

variable (h : t.Accessible p)
include h

theorem get?_eq : t.get? p = some .directory := h p (List.prefix_refl _)

theorem up : t.Accessible p.up := fun q hq => h q (hq.trans (List.dropLast_prefix _))

theorem child {c : String} (hc : t.get? (p.child c) = some .directory) :
    t.Accessible (p.child c) := by
  rintro ⟨names⟩ hnames
  rcases List.prefix_concat_iff.mp hnames with rfl | hnames
  · exact hc
  · exact h _ hnames

end Accessible

end

/-! ## Following a path -/

/-- A name on the way along `cs` from `p` is too long or is that of a file. -/
def Blocked (t : Tree) (p : Place) (cs : List String) : Prop :=
  (∃ c ∈ cs, nameLimit < c.utf8ByteSize) ∨
    ∃ front f, front <+: cs ∧ t.get? (p.follow front) = some (.file f)

/-- There are directories all the way along `cs` from `p`. -/
structure Leads (t : Tree) (p : Place) (cs : List String) : Prop where
  short : ∀ c ∈ cs, c.utf8ByteSize ≤ nameLimit
  directory : ∀ front, front <+: cs → t.get? (p.follow front) = some .directory

section
variable {t : Tree} {p : Place} {c : String} {cs : List String}

theorem Blocked.cons (h : t.Blocked (p.follow [c]) cs) : t.Blocked p (c :: cs) := by
  rcases h with ⟨d, hd, hlong⟩ | ⟨front, f, hfront, hfile⟩
  · exact .inl ⟨d, List.mem_cons_of_mem _ hd, hlong⟩
  · exact .inr ⟨c :: front, f, (List.prefix_cons_inj c).mpr hfront, hfile⟩

theorem Blocked.append (h : t.Blocked p cs) (ds : List String) : t.Blocked p (cs ++ ds) := by
  rcases h with ⟨c, hc, hlong⟩ | ⟨front, f, hfront, hfile⟩
  · exact .inl ⟨c, List.mem_append_left _ hc, hlong⟩
  · exact .inr ⟨front, f, hfront.trans (List.prefix_append _ _), hfile⟩

namespace Leads

theorem nil (h : t.get? p = some .directory) : Leads t p [] where
  short := by simp
  directory := by
    intro front hfront
    rw [List.prefix_nil.mp hfront]
    exact h

theorem cons (hp : t.get? p = some .directory) (hc : c.utf8ByteSize ≤ nameLimit)
    (h : Leads t (p.follow [c]) cs) : Leads t p (c :: cs) where
  short := List.forall_mem_cons.mpr ⟨hc, h.short⟩
  directory := by
    intro front hfront
    rcases List.prefix_cons_iff.mp hfront with rfl | ⟨rest, rfl, hrest⟩
    · exact hp
    · exact h.directory rest hrest

theorem tail (h : Leads t p (c :: cs)) : Leads t (p.follow [c]) cs where
  short := (List.forall_mem_cons.mp h.short).2
  directory front hfront := h.directory (c :: front) ((List.prefix_cons_inj c).mpr hfront)

theorem concat (h : Leads t p cs) (hc : c.utf8ByteSize ≤ nameLimit)
    (hd : t.get? (p.follow (cs ++ [c])) = some .directory) : Leads t p (cs ++ [c]) where
  short := by
    intro d hmem
    rcases List.mem_append.mp hmem with hmem | hmem
    · exact h.short d hmem
    · rwa [List.mem_singleton.mp hmem]
  directory := by
    intro front hfront
    rcases List.prefix_concat_iff.mp hfront with rfl | hfront
    · exact hd
    · exact h.directory front hfront

theorem not_blocked (h : Leads t p cs) : ¬ t.Blocked p cs := by
  rintro (⟨c, hc, hlong⟩ | ⟨front, f, hfront, hfile⟩)
  · exact absurd (h.short c hc) (Nat.not_le.mpr hlong)
  · cases (h.directory front hfront).symm.trans hfile

theorem walk_eq (h : Leads t p cs) (hcs : ∀ c ∈ cs, Proper c) :
    t.walk p cs = .ok (p.follow cs) := by
  induction cs generalizing p with
  | nil => rfl
  | cons c cs ih =>
    have hc := hcs c List.mem_cons_self
    have hrest := ih h.tail fun d hd => hcs d (List.mem_cons_of_mem _ hd)
    have hshort : ¬ nameLimit < c.utf8ByteSize := Nat.not_lt.mpr (h.short c List.mem_cons_self)
    have hp : t.get? p = some .directory := h.directory [] List.nil_prefix
    have hnext : t.get? (p.follow [c]) = some .directory := h.directory [c] (by simp)
    rw [walk, hp]
    simp only [hc.ne_empty, hc.ne_dot, or_self, if_false]
    by_cases hup : c = ".."
    · rw [if_pos hup]
      rw [show p.follow [c] = p.up from if_pos hup] at hrest
      simpa [Place.follow, hup] using hrest
    · rw [show p.follow [c] = p.child c from if_neg hup] at hnext hrest
      rw [if_neg hup, if_neg hshort, hnext]
      simpa [Place.follow, hup] using hrest

end Leads

/-- The ways in which following `cs` from the place `p` can end. -/
inductive Walked (t : Tree) (p : Place) (cs : List String) : Except PathError Place → Prop
  | arrived (h : t.Accessible (p.follow cs)) (hway : Leads t p cs) :
      Walked t p cs (.ok (p.follow cs))
  | file {f : File} (h : t.get? (p.follow cs) = some (.file f)) : Walked t p cs (.ok (p.follow cs))
  | missing : Walked t p cs (.error (.os .notFound))
  | refused {e : OsError} (he : e ≠ .notFound) (h : t.Blocked p cs) :
      Walked t p cs (.error (.os e))

theorem Walked.cons {r : Except PathError Place} (h : t.Accessible p)
    (hc : c.utf8ByteSize ≤ nameLimit) (hr : Walked t (p.follow [c]) cs r) :
    Walked t p (c :: cs) r := by
  cases hr with
  | arrived hacc hway => exact .arrived hacc (hway.cons h.get?_eq hc)
  | file hfile => exact .file hfile
  | missing => exact .missing
  | refused he hb => exact .refused he hb.cons

theorem walked (h : t.Accessible p) (hcs : ∀ c ∈ cs, Proper c) :
    Walked t p cs (t.walk p cs) := by
  induction cs generalizing p with
  | nil => exact .arrived h (.nil h.get?_eq)
  | cons c cs ih =>
    have hc := hcs c List.mem_cons_self
    have ih {q : Place} (hq : t.Accessible q) := ih hq fun d hd => hcs d (List.mem_cons_of_mem _ hd)
    rw [walk, h.get?_eq]
    simp only [hc.ne_empty, hc.ne_dot, or_self, if_false]
    split
    · next hup =>
      subst hup
      exact .cons h (by decide) (ih h.up)
    · next hup =>
      have hnext : p.follow [c] = p.child c := if_neg hup
      split
      · next hlong => exact .refused (by decide) (.inl ⟨c, List.mem_cons_self, hlong⟩)
      · next hshort =>
        cases hentry : t.get? (p.child c) with
        | none => exact .missing
        | some entry =>
          cases entry with
          | directory =>
            refine .cons h (Nat.le_of_not_lt hshort) ?_
            rw [hnext]
            exact ih (h.child hentry)
          | file f =>
            -- A file may stand at the end of the way, but not before it.
            rw [← hnext] at hentry ⊢
            cases cs with
            | nil => exact .file hentry
            | cons d ds =>
              simp only [walk, hentry]
              exact .refused (by decide) (.inr ⟨[c], f, by simp, hentry⟩)

theorem Leads.accessible (h : Leads t p cs) (hp : t.Accessible p) (hcs : ∀ c ∈ cs, Proper c) :
    t.Accessible (p.follow cs) := by
  have hwalked := walked hp hcs
  rw [h.walk_eq hcs] at hwalked
  generalize hr : (Except.ok (p.follow cs) : Except PathError Place) = r at hwalked
  cases hwalked with
  | arrived hacc => exact hacc
  | file hfile => cases (h.directory cs (List.prefix_refl _)).symm.trans hfile
  | missing => cases hr
  | refused => cases hr

end

theorem walk_append (t : Tree) (p : Place) (cs ds : List String) :
    t.walk p (cs ++ ds) = t.walk p cs >>= fun q => t.walk q ds := by
  induction cs generalizing p with
  | nil => rfl
  | cons c cs ih =>
    simp only [List.cons_append, walk, ih]
    repeat' split
    all_goals rfl

/-! ## Growing trees -/

/-- The same tree, but some places on the way along `cs` that held nothing are directories. -/
structure Grown (t t' : Tree) (p : Place) (cs : List String) : Prop where
  home : t'.home = t.home
  get?_eq : ∀ q, t'.get? q = t.get? q ∨
    t.get? q = none ∧ t'.get? q = some .directory ∧ ∃ front, front <+: cs ∧ q = p.follow front

section
variable {t t' t'' : Tree} {p : Place} {cs : List String}

namespace Grown

theorem refl (t : Tree) (p : Place) (cs : List String) : Grown t t p cs := ⟨rfl, fun _ => .inl rfl⟩

theorem put (t : Tree) (p : Place) (cs : List String) (h : t.get? (p.follow cs) = none) :
    Grown t (t.put (p.follow cs) .directory) p cs where
  home := rfl
  get?_eq := by
    intro q
    by_cases hq : q = p.follow cs
    · subst hq
      exact .inr ⟨h, get?_put_self _ (by simp [h]), cs, List.prefix_refl _, rfl⟩
    · exact .inl (t.get?_put_of_ne _ hq)

theorem trans {ds : List String} (h : Grown t t' p cs) (h' : Grown t' t'' p (cs ++ ds)) :
    Grown t t'' p (cs ++ ds) where
  home := h'.home.trans h.home
  get?_eq := by
    intro q
    rcases h.get?_eq q with heq | ⟨hnone, hdir, front, hfront, hq⟩
    · rw [← heq]
      exact h'.get?_eq q
    · have hmade : ∃ front, front <+: cs ++ ds ∧ q = p.follow front :=
        ⟨front, hfront.trans (List.prefix_append _ _), hq⟩
      rcases h'.get?_eq q with heq' | ⟨hnone', -, -⟩
      · exact .inr ⟨hnone, heq'.trans hdir, hmade⟩
      · cases hdir.symm.trans hnone'

variable (h : Grown t t' p cs)
include h

theorem get?_of_some {q : Place} {e : Entry} (hq : t.get? q = some e) : t'.get? q = some e := by
  rcases h.get?_eq q with heq | ⟨hnone, -, -⟩
  · exact heq.trans hq
  · cases hq.symm.trans hnone

theorem get?_file_iff {q : Place} {f : File} :
    t'.get? q = some (.file f) ↔ t.get? q = some (.file f) := by
  rcases h.get?_eq q with heq | ⟨hnone, hdir, -⟩
  · rw [heq]
  · simp [hnone, hdir]

theorem blocked_iff {q : Place} {ds : List String} : t'.Blocked q ds ↔ t.Blocked q ds := by
  simp only [Blocked, h.get?_file_iff]

theorem leads {q : Place} {ds : List String} (hq : Leads t q ds) : Leads t' q ds :=
  ⟨hq.short, fun front hfront => h.get?_of_some (hq.directory front hfront)⟩

theorem get?_directory_iff (hway : Leads t' p cs) (q : Place) :
    t'.get? q = some .directory ↔
      t.get? q = some .directory ∨ ∃ front, front <+: cs ∧ q = p.follow front := by
  constructor
  · intro hq
    rcases h.get?_eq q with heq | ⟨-, -, hmade⟩
    · exact .inl (heq.symm.trans hq)
    · exact .inr hmade
  · rintro (hq | ⟨front, hfront, rfl⟩)
    · exact h.get?_of_some hq
    · exact hway.directory front hfront

end Grown

end

/-! ## Paths and their texts -/

theorem checkText_eq_ok_iff {s : String} (hs : s ≠ "") :
    checkText s = .ok () ↔ '\x00' ∉ s.toList ∧ s.utf8ByteSize < pathLimit := by
  by_cases hnul : '\x00' ∈ s.toList
  · simp [checkText, hnul]
  · by_cases hlong : pathLimit ≤ s.utf8ByteSize
    · simp [checkText, hnul, hs, hlong]
    · simp [checkText, hnul, hs, hlong, Nat.not_le.mp hlong]

/-- A path whose text can be looked up has fronts whose texts can. -/
theorem checkText_front {root c : String} {cs : List String} (hp : Normal ⟨root, cs ++ [c]⟩)
    (h : checkText (Path.text ⟨root, cs ++ [c]⟩) = .ok ()) :
    checkText (Path.text ⟨root, cs⟩) = .ok () := by
  rw [checkText_eq_ok_iff (Path.text_ne_empty _)] at h ⊢
  by_cases hcs : cs = []
  · subst hcs
    obtain rfl | rfl | rfl : root = "" ∨ root = "/" ∨ root = "//" := hp.root <;> decide
  · rw [Path.text_append_singleton hp hcs] at h
    simp only [String.toList_append, List.mem_append, not_or, String.utf8ByteSize_append] at h
    exact ⟨h.1.1, by omega⟩

theorem walk_lead (t : Tree) {p : Place} (h : t.get? p = some .directory) {lead : List String}
    (hlead : ∀ c ∈ lead, c = "" ∨ c = ".") (cs : List String) :
    t.walk p (lead ++ cs) = t.walk p cs := by
  induction lead with
  | nil => rfl
  | cons c lead ih =>
    obtain ⟨hc, hlead⟩ := List.forall_mem_cons.mp hlead
    rw [List.cons_append, walk, h]
    simp only [if_pos hc, ih hlead]

theorem find_text (t : Tree) {path : Path} (hp : path.Normal)
    (htext : checkText path.text = .ok ()) :
    t.find path.text = t.walk (path.start t.home) path.parts >>= fun p =>
      match t.get? p with
      | some e => .ok e
      | none => .error (.os .notFound) := by
  obtain ⟨lead, hlead, hcomponents⟩ := Path.components_text hp
  have hstart : t.get? (path.start t.home) = some .directory := (t.accessible_start _).get?_eq
  rw [find, htext, Path.start_text hp, hcomponents, walk_lead t hstart hlead]
  rfl

section
variable {t : Tree} {path : Path} (hp : path.Normal) (htext : checkText path.text = .ok ())
include hp htext

theorem forgive_of_leads (hway : Leads t (path.start t.home) path.parts) (e : PathError) :
    t.forgive path e = (t, .ok ()) := by
  have hfind : t.find path.text = .ok .directory := by
    rw [find_text t hp htext, hway.walk_eq hp.parts]
    simp [bind, Except.bind, hway.directory _ (List.prefix_refl _)]
  simp only [forgive, isDirectory, hfind]

theorem forgive_of_error {e : OsError}
    (hwalk : t.walk (path.start t.home) path.parts = .error (.os e)) :
    t.forgive path (.os e) = (t, .error (.os e)) := by
  have hfind : t.find path.text = .error (.os e) := by
    rw [find_text t hp htext, hwalk]
    rfl
  cases e <;> simp only [forgive, isDirectory, hfind]

theorem forgive_of_file {f : File} (e : PathError)
    (hwalk : t.walk (path.start t.home) path.parts = .ok (path.place t.home))
    (hfile : t.get? (path.place t.home) = some (.file f)) :
    t.forgive path e = (t, .error e) := by
  have hfind : t.find path.text = .ok (.file f) := by
    rw [find_text t hp htext, hwalk]
    simp [bind, Except.bind, hfile]
  simp only [forgive, isDirectory, hfind]

end

/-! ## Making directories -/

theorem ensureDirectory_of_error {t : Tree} {path : Path} {e : OsError}
    (h : t.makeDirectory path = .error (.os e)) (he : e ≠ .notFound) :
    t.ensureDirectory path = t.forgive path (.os e) := by
  cases e with
  | notFound => exact absurd rfl he
  | _ => simp only [ensureDirectory, h]

/-- What becomes of a request for the directories along `cs` from `p`. -/
inductive Made (t : Tree) (p : Place) (cs : List String) : Tree × Except PathError Unit → Prop
  | done {t' : Tree} (hgrown : Grown t t' p cs) (hway : Leads t' p cs) : Made t p cs (t', .ok ())
  | refused {t' : Tree} {e : OsError} (he : e ≠ .notFound) (h : t.Blocked p cs) :
      Made t p cs (t', .error (.os e))

theorem Made.of_grown {t t' : Tree} {p : Place} {cs ds : List String}
    {made : Tree × Except PathError Unit} (h : Made t' p (cs ++ ds) made)
    (hgrown : Grown t t' p cs) : Made t p (cs ++ ds) made := by
  cases h with
  | done hgrown' hway => exact .done (hgrown.trans hgrown') hway
  | refused he hblocked => exact .refused he (hgrown.blocked_iff.mp hblocked)

section
variable {t : Tree} {root c : String} {cs : List String} {s : Place}
  (hs : t.home.start (!root.isEmpty) = s) (hp : Normal ⟨root, cs ++ [c]⟩)
  (htext : checkText (Path.text ⟨root, cs ++ [c]⟩) = .ok ())
include hs htext

theorem makeDirectory_of_error {e : PathError} (hwalk : t.walk s cs = .error e) :
    t.makeDirectory ⟨root, cs ++ [c]⟩ = .error e := by
  simp [makeDirectory, Path.start, htext, hs, hwalk, bind, Except.bind]

theorem makeDirectory_of_file {q : Place} {f : File} (hwalk : t.walk s cs = .ok q)
    (hq : t.get? q = some (.file f)) :
    t.makeDirectory ⟨root, cs ++ [c]⟩ = .error (.os .notDirectory) := by
  simp [makeDirectory, Path.start, htext, hs, hwalk, hq, bind, Except.bind]

section
variable {q : Place} (hwalk : t.walk s cs = .ok q) (hq : t.get? q = some .directory)
include hwalk hq

theorem makeDirectory_up (hup : c = "..") :
    t.makeDirectory ⟨root, cs ++ [c]⟩ = .error (.os .alreadyExists) := by
  subst hup
  simp [makeDirectory, Path.start, htext, hs, hwalk, hq, bind, Except.bind]

variable (hup : c ≠ "..")
include hup

theorem makeDirectory_of_long (hlong : nameLimit < c.utf8ByteSize) :
    t.makeDirectory ⟨root, cs ++ [c]⟩ = .error (.os .nameTooLong) := by
  simp [makeDirectory, Path.start, htext, hs, hwalk, hq, hup, hlong, bind, Except.bind]

variable (hshort : c.utf8ByteSize ≤ nameLimit)
include hshort

theorem makeDirectory_of_present {e : Entry} (he : t.get? (q.child c) = some e) :
    t.makeDirectory ⟨root, cs ++ [c]⟩ = .error (.os .alreadyExists) := by
  simp [makeDirectory, Path.start, htext, hs, hwalk, hq, hup, Nat.not_lt.mpr hshort, he, bind,
    Except.bind]

theorem makeDirectory_of_missing (hmissing : t.get? (q.child c) = none) :
    t.makeDirectory ⟨root, cs ++ [c]⟩ = .ok (t.put (q.child c) .directory) := by
  simp [makeDirectory, Path.start, htext, hs, hwalk, hq, hup, Nat.not_lt.mpr hshort, hmissing,
    bind, Except.bind]

end

include hp

theorem made_of_kept {e : OsError} (hway : Leads t s (cs ++ [c]))
    (hmake : t.makeDirectory ⟨root, cs ++ [c]⟩ = .error (.os e)) (he : e ≠ .notFound) :
    Made t s (cs ++ [c]) (t.ensureDirectory ⟨root, cs ++ [c]⟩) := by
  subst hs
  rw [ensureDirectory_of_error hmake he, forgive_of_leads hp htext hway]
  exact .done (.refl _ _ _) hway

/-- The way up to the directory and its own lookup meet the same refusal. -/
theorem made_of_refused {e : OsError} (hblocked : t.Blocked s (cs ++ [c]))
    (hmake : t.makeDirectory ⟨root, cs ++ [c]⟩ = .error (.os e)) (he : e ≠ .notFound)
    (hwalk : t.walk s (cs ++ [c]) = .error (.os e)) :
    Made t s (cs ++ [c]) (t.ensureDirectory ⟨root, cs ++ [c]⟩) := by
  subst hs
  rw [ensureDirectory_of_error hmake he, forgive_of_error hp htext hwalk]
  exact .refused he hblocked

theorem made_of_leads_up (hway : Leads t s cs) (hup : c = "..") :
    Made t s (cs ++ [c]) (t.ensureDirectory ⟨root, cs ++ [c]⟩) := by
  have hcs : ∀ d ∈ cs, Proper d := fun d hd => hp.parts d (List.mem_append_left _ hd)
  have hacc : t.Accessible (s.follow cs) := hway.accessible (hs ▸ t.accessible_start _) hcs
  have hmake := makeDirectory_up hs htext (hway.walk_eq hcs) hacc.get?_eq hup
  have hnext : s.follow (cs ++ [c]) = (s.follow cs).up :=
    (s.follow_append cs [c]).trans (if_pos hup)
  have hfull : Leads t s (cs ++ [c]) :=
    hway.concat (by rw [hup]; decide) (by rw [hnext]; exact hacc.up.get?_eq)
  exact made_of_kept hs hp htext hfull hmake (by decide)

theorem made_of_leads_child (hway : Leads t s cs) (hup : c ≠ "..") :
    Made t s (cs ++ [c]) (t.ensureDirectory ⟨root, cs ++ [c]⟩) := by
  have hcs : ∀ d ∈ cs, Proper d := fun d hd => hp.parts d (List.mem_append_left _ hd)
  have hc : Proper c := hp.parts c (by simp)
  have hhere := hway.walk_eq hcs
  have hdir := hway.directory cs (List.prefix_refl _)
  have hnext : s.follow (cs ++ [c]) = (s.follow cs).child c :=
    (s.follow_append cs [c]).trans (if_neg hup)
  have hwalk : t.walk s (cs ++ [c]) = t.walk (s.follow cs) [c] := by
    rw [walk_append, hhere]
    rfl
  by_cases hlong : nameLimit < c.utf8ByteSize
  · have hmake := makeDirectory_of_long hs htext hhere hdir hup hlong
    have hrefused : t.walk (s.follow cs) [c] = .error (.os .nameTooLong) := by
      simp [walk, hdir, hc.ne_empty, hc.ne_dot, hup, hlong]
    exact made_of_refused hs hp htext (.inl ⟨c, by simp, hlong⟩) hmake (by decide)
      (hwalk.trans hrefused)
  have hshort : c.utf8ByteSize ≤ nameLimit := Nat.le_of_not_lt hlong
  cases hentry : t.get? (s.follow (cs ++ [c])) with
  | none =>
    have hmake := makeDirectory_of_missing hs htext hhere hdir hup hshort (hnext ▸ hentry)
    have hgrown := Grown.put t s (cs ++ [c]) hentry
    have hmade : (t.put (s.follow (cs ++ [c])) .directory).get? (s.follow (cs ++ [c])) =
        some .directory := get?_put_self _ (by simp [hentry])
    simp only [ensureDirectory, hmake, ← hnext]
    exact .done hgrown ((hgrown.leads hway).concat hshort hmade)
  | some entry =>
    have hmake := makeDirectory_of_present hs htext hhere hdir hup hshort (hnext ▸ hentry)
    cases entry with
    | directory => exact made_of_kept hs hp htext (hway.concat hshort hentry) hmake (by decide)
    | file f =>
      have harrived : t.walk (s.follow cs) [c] = .ok (s.follow (cs ++ [c])) := by
        simp [walk, hdir, hc.ne_empty, hc.ne_dot, hup, hlong, ← hnext, hentry]
      subst hs
      rw [ensureDirectory_of_error hmake (by decide),
        forgive_of_file hp htext _ (hwalk.trans harrived) hentry]
      exact .refused (by decide) (.inr ⟨cs ++ [c], f, List.prefix_refl _, hentry⟩)

/-- With directories all the way to it, a directory can be had unless its own name stands against
it. -/
theorem made_of_leads (hway : Leads t s cs) :
    Made t s (cs ++ [c]) (t.ensureDirectory ⟨root, cs ++ [c]⟩) := by
  by_cases hup : c = ".."
  · exact made_of_leads_up hs hp htext hway hup
  · exact made_of_leads_child hs hp htext hway hup

/-- Either a place on the way is missing, or it is settled whether the directory can be had. -/
theorem ensureDirectory_cases :
    t.ensureDirectory ⟨root, cs ++ [c]⟩ = (t, .error (.os .notFound)) ∨
      Made t s (cs ++ [c]) (t.ensureDirectory ⟨root, cs ++ [c]⟩) := by
  have hcs : ∀ d ∈ cs, Proper d := fun d hd => hp.parts d (List.mem_append_left _ hd)
  have hwalked := walked (hs ▸ t.accessible_start (!root.isEmpty) : t.Accessible s) hcs
  generalize hwalk : t.walk s cs = r at hwalked
  cases hwalked with
  | arrived _ hway => exact .inr (made_of_leads hs hp htext hway)
  | file hfile =>
    have hmake := makeDirectory_of_file hs htext hwalk hfile
    have hrefused : t.walk s (cs ++ [c]) = .error (.os .notDirectory) := by
      rw [walk_append, hwalk]
      simp [bind, Except.bind, walk, hfile]
    exact .inr (made_of_refused hs hp htext (.inr ⟨cs, _, List.prefix_append _ _, hfile⟩) hmake
      (by decide) hrefused)
  | missing => exact .inl (by simp only [ensureDirectory, makeDirectory_of_error hs htext hwalk])
  | @refused e he hblocked =>
    have hmake := makeDirectory_of_error hs htext hwalk
    have hrefused : t.walk s (cs ++ [c]) = .error (.os e) := by
      rw [walk_append, hwalk]
      rfl
    exact .inr (made_of_refused hs hp htext (hblocked.append [c]) hmake he hrefused)

end

theorem ensureFrom_of_error {t t' : Tree} {root : String} {names : List String} {e : PathError}
    (h : t.ensureDirectory ⟨root, names.reverse⟩ = (t', .error e)) (he : e ≠ .os .notFound) :
    t.ensureFrom root names = (t', .error e) := by
  cases names with
  | nil => exact h
  | cons c names =>
    simp only [ensureFrom, h]
    split
    · next heq => cases heq; exact absurd rfl he
    · rfl

/-- A request for directories makes all that are missing, or the way is blocked. -/
theorem made_ensureFrom (t : Tree) {root : String} {s : Place}
    (hs : t.home.start (!root.isEmpty) = s) (names : List String)
    (hp : Normal ⟨root, names.reverse⟩)
    (htext : checkText (Path.text ⟨root, names.reverse⟩) = .ok ()) :
    Made t s names.reverse (t.ensureFrom root names) := by
  induction names with
  | nil =>
    simp only [List.reverse_nil] at hp htext ⊢
    have hway : Leads t s [] := .nil (hs ▸ (t.accessible_start _).get?_eq)
    have hmake : t.makeDirectory ⟨root, []⟩ = .error (.os .alreadyExists) := by
      rw [makeDirectory, htext]
      rfl
    subst hs
    rw [ensureFrom, ensureDirectory_of_error hmake (by decide), forgive_of_leads hp htext hway]
    exact .done (.refl _ _ _) hway
  | cons c names ih =>
    simp only [List.reverse_cons] at hp htext ⊢
    have hfront := ih (hp.front (List.prefix_append _ _)) (checkText_front hp htext)
    rcases ensureDirectory_cases (t := t) hs hp htext with hmissing | hmade
    -- The directory is asked for again, in the tree with all of its front made.
    · simp only [ensureFrom, List.reverse_cons, hmissing]
      generalize t.ensureFrom root names = made at hfront
      cases hfront with
      | done hgrown hway =>
        exact (made_of_leads (hgrown.home ▸ hs) hp htext hway).of_grown hgrown
      | refused he hblocked => exact .refused he (hblocked.append [c])
    · generalize hdir : t.ensureDirectory ⟨root, names.reverse ++ [c]⟩ = made at hmade
      rw [← List.reverse_cons] at hdir
      cases hmade with
      | done hgrown hway =>
        simp only [ensureFrom, hdir]
        exact .done hgrown hway
      | refused he hblocked =>
        rw [ensureFrom_of_error hdir (by simpa using he)]
        exact .refused he hblocked

/-! ## Requests as a whole -/

section
variable (t : Tree) {path : Path}

theorem makeDirectories_of_nul (h : '\x00' ∈ path.text.toList) :
    t.makeDirectories path = (t, .error .nul) := by
  have htext : checkText path.text = .error .nul := by simp [checkText, h]
  have hmake : t.makeDirectory path = .error .nul := by rw [makeDirectory, htext]; rfl
  apply ensureFrom_of_error
  · simp only [List.reverse_reverse, ensureDirectory, hmake]
  · decide

theorem makeDirectories_of_long (hnul : '\x00' ∉ path.text.toList)
    (h : pathLimit ≤ path.text.utf8ByteSize) :
    t.makeDirectories path = (t, .error (.os .nameTooLong)) := by
  have htext : checkText path.text = .error (.os .nameTooLong) := by
    simp [checkText, hnul, path.text_ne_empty, h]
  have hmake : t.makeDirectory path = .error (.os .nameTooLong) := by
    rw [makeDirectory, htext]; rfl
  have hfind : t.find path.text = .error (.os .nameTooLong) := by rw [find, htext]; rfl
  apply ensureFrom_of_error
  · simp only [List.reverse_reverse, ensureDirectory, hmake, forgive, isDirectory, hfind]
  · decide

theorem made_makeDirectories (hp : path.Normal) (hnul : '\x00' ∉ path.text.toList)
    (h : path.text.utf8ByteSize < pathLimit) :
    Made t (path.start t.home) path.parts (t.makeDirectories path) := by
  have hstart : t.home.start (!path.root.isEmpty) = path.start t.home := rfl
  have hmade := t.made_ensureFrom hstart path.parts.reverse
  rw [List.reverse_reverse] at hmade
  exact hmade hp ((checkText_eq_ok_iff path.text_ne_empty).mpr ⟨hnul, h⟩)

end

end Tree

end RegisterMachine.Files
