import Mathlib.Data.List.Infix
import Mathlib.Data.List.Nodup
import RegisterMachine.Log.Hub
import RegisterMachine.Proofs.Text.Lines

/-!
# The hierarchy of loggers

A logger stands above another if its name is a front of the other's name before a dot
(`StandsAbove`). `Hub.lineage` are the loggers with a name or above it, and `Hub.reach` those that a
record of the name is passed on to on its way up.

Records pass nothing but their lineage, and each of it once (`mem_reach`, `nodup_reach`). They
pass all of it where `Hub.Propagates` holds, and then the two are the same loggers
(`reach_perm_lineage`). It fails only for a logger that was entered too late to take those below it
under its wing (`propagates_or_hasLatecomer`).
-/

namespace RegisterMachine.Log

/-! ## Names -/

/-- The name `upper` is a front of `name` before a dot. -/
def StandsAbove (upper name : String) : Prop := upper.toList ++ ['.'] <+: name.toList

instance (upper name : String) : Decidable (StandsAbove upper name) :=
  inferInstanceAs (Decidable (_ <+: _))

theorem StandsAbove.length_lt {upper name : String} (h : StandsAbove upper name) :
    upper.length < name.length := by
  have hle := h.length_le
  rw [List.length_append, List.length_singleton] at hle
  rwa [← String.length_toList, ← String.length_toList]

theorem StandsAbove.trans {top upper name : String} (h : StandsAbove top upper)
    (h' : StandsAbove upper name) : StandsAbove top name :=
  List.IsPrefix.trans h ((List.prefix_append upper.toList ['.']).trans h')

namespace Hub

/-- A name of nonempty parts with dots between them, other than that of the root. -/
structure Dotted (name : String) : Prop where
  parts : [] ∉ Text.cutAt '.' name.toList
  ne_root : name ≠ rootName

instance (name : String) : Decidable (Dotted name) :=
  decidable_of_iff ([] ∉ Text.cutAt '.' name.toList ∧ name ≠ rootName)
    ⟨fun h => ⟨h.1, h.2⟩, fun h => ⟨h.parts, h.ne_root⟩⟩

theorem Dotted.isRoot_eq {name : String} (h : Dotted name) : isRoot name = false := by
  have hne : name ≠ "" := by
    rintro rfl
    exact h.parts List.mem_cons_self
  simp [isRoot, hne, h.ne_root]

/-- The names that the root would pass for a logger of its own above them. -/
theorem Dotted.mem_of_isPrefixOf {name : String} (h : Dotted name)
    (hroot : name.toList.isPrefixOf rootName.toList = true) : name ∈ ["r", "ro", "roo"] := by
  have hinits : name.toList ∈ ["", "r", "ro", "roo", "root"].map String.toList :=
    (List.mem_inits name.toList rootName.toList).mpr (List.isPrefixOf_iff_prefix.mp hroot)
  have hname : name ∈ ["", "r", "ro", "roo", "root"] := by
    obtain ⟨front, hfront, heq⟩ := List.mem_map.mp hinits
    exact String.toList_inj.mp heq ▸ hfront
  have hempty : name ≠ "" := by
    rintro rfl
    exact h.parts List.mem_cons_self
  simpa [hempty, show name ≠ "root" from h.ne_root] using hname

/-! ## Fronts -/

/-- Fronts of a name given backwards are what stands in front of its dots. -/
theorem exists_of_mem_fronts {cs front : List Char} (h : front ∈ fronts cs) :
    ∃ back, cs = back ++ '.' :: front.reverse := by
  fun_induction fronts cs with
  | case1 => cases h
  | case2 c rest ih =>
    rcases List.mem_cons.mp h with rfl | h
    · exact ⟨[], by simp⟩
    · obtain ⟨back, rfl⟩ := ih h
      exact ⟨'.' :: c :: back, rfl⟩
  | case3 c rest _ ih =>
    obtain ⟨back, rfl⟩ := ih h
    exact ⟨c :: back, rfl⟩

/-- All fronts are found where no two dots meet. -/
theorem mem_fronts {cs front back : List Char} (hcs : cs = back ++ '.' :: front.reverse)
    (hfront : front ≠ []) (hdots : ¬ ['.', '.'] <:+: cs) : front ∈ fronts cs := by
  fun_induction fronts cs generalizing back with
  | case1 => simp at hcs
  | case2 c rest ih =>
    have hrest : ¬ ['.', '.'] <:+: rest := fun h => hdots (h.trans ⟨['.', c], [], by simp⟩)
    match back, hcs with
    | [], hcs =>
      have hhead : (c :: rest).reverse = front := by
        rw [(List.cons_eq_cons.mp hcs).2, List.reverse_reverse]
      exact hhead ▸ List.mem_cons_self
    | [_], hcs =>
      simp only [List.cons_append, List.nil_append, List.cons.injEq] at hcs
      obtain ⟨-, rfl, -⟩ := hcs
      exact absurd ⟨[], rest, rfl⟩ hdots
    | _ :: _ :: back, hcs =>
      simp only [List.cons_append, List.cons.injEq] at hcs
      exact List.mem_cons_of_mem _ (ih hcs.2.2 hrest)
  | case3 c rest hhead ih =>
    have hrest : ¬ ['.', '.'] <:+: rest := fun h => hdots (h.trans ⟨[c], [], by simp⟩)
    match back, hcs with
    | [], hcs =>
      obtain ⟨rfl, rfl⟩ := List.cons_eq_cons.mp hcs
      obtain ⟨d, ds, hds⟩ := List.exists_cons_of_ne_nil (mt List.reverse_eq_nil_iff.mp hfront)
      exact absurd hds (hhead d ds rfl)
    | _ :: back, hcs => exact ih (List.cons_eq_cons.mp hcs).2 hrest

/-- Each front stands above those before it. -/
theorem pairwise_fronts (cs : List Char) :
    (fronts cs).Pairwise fun long short => short ++ ['.'] <+: long := by
  fun_induction fronts cs with
  | case1 => exact .nil
  | case2 c rest ih =>
    refine .cons (fun front hfront => ?_) ih
    obtain ⟨back, rfl⟩ := exists_of_mem_fronts hfront
    exact ⟨back.reverse ++ [c], by simp⟩
  | case3 c rest _ ih => exact ih

theorem standsAbove_of_mem_fronts {name : String} {front : List Char}
    (h : front ∈ fronts name.toList.reverse) : StandsAbove (String.ofList front) name := by
  obtain ⟨back, hback⟩ := exists_of_mem_fronts h
  refine ⟨back.reverse, ?_⟩
  rw [String.toList_ofList, ← List.reverse_reverse name.toList, hback]
  simp

theorem mem_fronts_of_standsAbove {upper name : String} (hname : Dotted name)
    (h : StandsAbove upper name) : upper.toList ∈ fronts name.toList.reverse := by
  obtain ⟨rest, hrest⟩ := h
  rw [List.append_assoc, List.singleton_append] at hrest
  have hback : name.toList.reverse = rest.reverse ++ '.' :: upper.toList.reverse := by
    simp [← hrest]
  refine mem_fronts hback ?_ ?_
  · intro hempty
    rw [hempty, List.nil_append] at hrest
    exact hname.parts (by simp [← hrest, Text.cutAt])
  · rintro ⟨a, b, hab⟩
    have hdots : name.toList = b.reverse ++ '.' :: '.' :: a.reverse := by
      rw [← List.reverse_reverse name.toList, ← hab]
      simp
    exact hname.parts (by simp [hdots, Text.cutAt_append, Text.cutAt])

/-! ## The way up -/

theorem of_parent? {h : Hub} {name : String} {l : Logger} (hl : h.parent? name = some l) :
    l ∈ h.loggers ∧ StandsAbove l.name name := by
  obtain ⟨front, hfront, hfind⟩ := List.exists_of_findSome?_eq_some hl
  have hname : l.name = String.ofList front := by
    have hfound := List.find?_some hfind
    simp only [Bool.and_eq_true, beq_iff_eq] at hfound
    exact hfound.1
  exact ⟨List.mem_of_find?_eq_some hfind, hname ▸ standsAbove_of_mem_fronts hfront⟩

theorem of_mem_above {h : Hub} {depth : Nat} {name : String} {l : Logger}
    (hl : l ∈ h.above depth name) : l ∈ h.loggers ∧ StandsAbove l.name name := by
  induction depth generalizing name with
  | zero => cases hl
  | succ depth ih =>
    rw [above] at hl
    split at hl
    · cases hl
    · next p hp =>
      obtain ⟨hmem, habove⟩ := of_parent? hp
      rcases List.mem_cons.mp hl with rfl | hl
      · exact ⟨hmem, habove⟩
      · exact ⟨(ih hl).1, (ih hl).2.trans habove⟩

/-- Names get shorter on the way up. -/
theorem nodup_above (h : Hub) (depth : Nat) (name : String) : (h.above depth name).Nodup := by
  induction depth generalizing name with
  | zero => exact .nil
  | succ depth ih =>
    rw [above]
    split
    · exact .nil
    · next p hp =>
      exact .cons (fun hp => Nat.lt_irrefl _ (of_mem_above hp).2.length_lt) (ih p.name)

/-- The loggers with a name or above it that a record of the name passes, nearest first. -/
def reach (h : Hub) (name : String) : List Logger :=
  (h.loggers.find? (·.name == name)).toList ++ h.above name.length name

theorem chain_eq_reach (h : Hub) {name : String} (hname : Dotted name) :
    h.chain name = h.reach name ++ [h.root] := by
  rw [chain, hname.isRoot_eq, if_neg Bool.false_ne_true, reach]

/-- The loggers with a name or above it. -/
def lineage (h : Hub) (name : String) : List Logger :=
  h.loggers.filter fun l => l.name = name ∨ StandsAbove l.name name

theorem mem_lineage {h : Hub} {name : String} {l : Logger} :
    l ∈ h.lineage name ↔ l ∈ h.loggers ∧ (l.name = name ∨ StandsAbove l.name name) := by
  simp [lineage]

theorem mem_reach {h : Hub} {name : String} {l : Logger} (hl : l ∈ h.reach name) :
    l ∈ h.lineage name := by
  rw [mem_lineage]
  rcases List.mem_append.mp hl with hl | hl
  · rw [Option.mem_toList] at hl
    exact ⟨List.mem_of_find?_eq_some hl, .inl (by simpa using List.find?_some hl)⟩
  · exact ⟨(of_mem_above hl).1, .inr (of_mem_above hl).2⟩

theorem nodup_reach (h : Hub) (name : String) : (h.reach name).Nodup := by
  refine List.nodup_append.mpr ⟨?_, h.nodup_above _ _, ?_⟩
  · cases h.loggers.find? (·.name == name) <;> simp
  · rintro l hl m hm rfl
    have hname : l.name = name := by simpa using List.find?_some (Option.mem_toList.mp hl)
    have hlt := (of_mem_above hm).2.length_lt
    rw [hname] at hlt
    omega

/-- Records of a name are passed on to every logger above it. -/
def Propagates (h : Hub) (name : String) : Prop :=
  ∀ l ∈ h.loggers, StandsAbove l.name name → l ∈ h.chain name

instance (h : Hub) (name : String) : Decidable (h.Propagates name) :=
  inferInstanceAs (Decidable (∀ l ∈ _, _ → _))

section
variable {h : Hub} (hnames : (h.loggers.map Logger.name).Nodup)
include hnames

theorem eq_of_name_eq {l m : Logger} (hl : l ∈ h.loggers) (hm : m ∈ h.loggers)
    (hname : l.name = m.name) : l = m :=
  List.inj_on_of_nodup_map hnames hl hm hname

theorem find?_of_mem {l : Logger} (hl : l ∈ h.loggers) :
    h.loggers.find? (·.name == l.name) = some l := by
  have hfound : (h.loggers.find? (·.name == l.name)).isSome := by
    rw [List.find?_isSome]
    exact ⟨l, hl, beq_self_eq_true l.name⟩
  obtain ⟨m, hm⟩ := Option.isSome_iff_exists.mp hfound
  have hname : m.name = l.name := by simpa using List.find?_some hm
  rw [hm, eq_of_name_eq hnames (List.mem_of_find?_eq_some hm) hl hname]

/-- Where records are passed on, they pass the lineage of their name. -/
theorem reach_perm_lineage {name : String} (hroot : h.root ∉ h.loggers) (hname : Dotted name)
    (hprop : h.Propagates name) : (h.reach name).Perm (h.lineage name) := by
  have hnodup : (h.lineage name).Nodup := (List.Nodup.of_map _ hnames).filter _
  rw [List.perm_ext_iff_of_nodup (h.nodup_reach name) hnodup]
  refine fun l => ⟨mem_reach, fun hlineage => ?_⟩
  obtain ⟨hl, rfl | habove⟩ := mem_lineage.mp hlineage
  · exact List.mem_append_left _ (Option.mem_toList.mpr (find?_of_mem hnames hl))
  · have hmem := hprop l hl habove
    rw [chain_eq_reach h hname, List.mem_append, List.mem_singleton] at hmem
    exact hmem.resolve_right (ne_of_mem_of_not_mem hl hroot)

/-! ## Loggers that were entered late -/

/-- The logger `x` was entered before `l`. -/
def Precedes (h : Hub) (x l : Logger) : Prop :=
  ∃ front back, h.loggers = front ++ l :: back ∧ x ∈ front

theorem mayAdopt_or_precedes {l x : Logger} (hl : l ∈ h.loggers) (hx : x ∈ h.loggers)
    (hne : l ≠ x) (hdotted : Dotted l.name) :
    h.mayAdopt l x.name = true ∨ l.name ∈ ["r", "ro", "roo"] ∧ h.Precedes x l := by
  by_cases hroot : l.name.toList.isPrefixOf rootName.toList = true
  · obtain ⟨front, back, hsplit, -⟩ := List.eq_append_cons_of_mem hx
    have hfront : h.loggers.takeWhile (·.name != x.name) = front := by
      have hnodup : ∀ m ∈ front, (m.name != x.name) = true := by
        rw [hsplit, List.map_append, List.nodup_append] at hnames
        intro m hm
        simpa using hnames.2.2 m.name (List.mem_map_of_mem hm) x.name (by simp)
      rw [hsplit, List.takeWhile_append_of_pos hnodup]
      simp
    have hmem : l ∈ front ∨ l = x ∨ l ∈ back := by simpa [hsplit] using hl
    rcases hmem with hmem | rfl | hmem
    · left
      rw [mayAdopt, hfront, Bool.or_eq_true]
      exact .inr (List.any_eq_true.mpr ⟨l, hmem, beq_self_eq_true _⟩)
    · exact absurd rfl hne
    · obtain ⟨between, rest, rfl⟩ := List.append_of_mem hmem
      exact .inr ⟨hdotted.mem_of_isPrefixOf hroot, front ++ x :: between, rest, by simp [hsplit],
        by simp⟩
  · exact .inl (by simp [mayAdopt, hroot])

/-- The nearest logger above is found first, and the others stand above it. -/
theorem mem_above_of_adopts (hdotted : ∀ l ∈ h.loggers, Dotted l.name) {depth : Nat}
    {x l : Logger} (hx : x ∈ h.loggers) (hdepth : x.name.length ≤ depth)
    (hadopts : ∀ m ∈ h.loggers, ∀ y ∈ h.lineage x.name, StandsAbove m.name y.name →
      h.mayAdopt m y.name = true)
    (hl : l ∈ h.loggers) (habove : StandsAbove l.name x.name) : l ∈ h.above depth x.name := by
  induction depth generalizing x with
  | zero =>
    have hlt := habove.length_lt
    omega
  | succ depth ih =>
    have hself : x ∈ h.lineage x.name := mem_lineage.mpr ⟨hx, .inl rfl⟩
    have hfind : (h.loggers.find? fun m => m.name == String.ofList l.name.toList &&
        h.mayAdopt m x.name).isSome := by
      rw [List.find?_isSome]
      exact ⟨l, hl, by simp [hadopts l hl x hself habove]⟩
    have hfront := mem_fronts_of_standsAbove (hdotted x hx) habove
    obtain ⟨p, hp⟩ : ∃ p, h.parent? x.name = some p := by
      rw [← Option.isSome_iff_exists]
      exact List.findSome?_isSome_iff.mpr ⟨_, hfront, hfind⟩
    obtain ⟨hpmem, hpabove⟩ := of_parent? hp
    have hplt := hpabove.length_lt
    obtain ⟨before, front, after, hsplit, hfound, hbefore⟩ := List.findSome?_eq_some_iff.mp hp
    have hpname : p.name.toList = front := by
      have hname := List.find?_some hfound
      simp only [Bool.and_eq_true, beq_iff_eq] at hname
      rw [hname.1, String.toList_ofList]
    simp only [above, hp]
    rw [hsplit, List.mem_append, List.mem_cons] at hfront
    rcases hfront with hmem | heq | hmem
    · rw [hbefore _ hmem] at hfind
      cases hfind
    · have hname : l.name = p.name := String.toList_inj.mp (heq.trans hpname.symm)
      exact eq_of_name_eq hnames hl hpmem hname ▸ List.mem_cons_self
    · have hup : StandsAbove l.name p.name := by
        have hpair := pairwise_fronts x.name.toList.reverse
        rw [hsplit, List.pairwise_append] at hpair
        rw [StandsAbove, hpname]
        exact List.rel_of_pairwise_cons hpair.2.1 hmem
      refine List.mem_cons_of_mem _ (ih hpmem (by omega) (fun m hm y hy => ?_) hup)
      obtain ⟨hy, hyname⟩ := mem_lineage.mp hy
      refine hadopts m hm y (mem_lineage.mpr ⟨hy, .inr ?_⟩)
      rcases hyname with heq | hyabove
      · exact heq ▸ hpabove
      · exact hyabove.trans hpabove

/-- A logger above `name` is named like the beginning of the root's name and was entered after one
that it stands above. -/
def HasLatecomer (h : Hub) (name : String) : Prop :=
  ∃ l ∈ h.lineage name, ∃ y ∈ h.lineage name,
    l.name ∈ ["r", "ro", "roo"] ∧ StandsAbove l.name y.name ∧ h.Precedes y l

theorem propagates_or_hasLatecomer (hdotted : ∀ l ∈ h.loggers, Dotted l.name) {x : Logger}
    (hx : x ∈ h.loggers) : h.Propagates x.name ∨ h.HasLatecomer x.name := by
  by_cases hadopts : ∀ m ∈ h.loggers, ∀ y ∈ h.lineage x.name, StandsAbove m.name y.name →
      h.mayAdopt m y.name = true
  · left
    intro l hl habove
    rw [chain_eq_reach h (hdotted x hx)]
    exact List.mem_append_left _ (List.mem_append_right _
      (mem_above_of_adopts hnames hdotted hx (Nat.le_refl _) hadopts hl habove))
  · right
    push Not at hadopts
    obtain ⟨m, hm, y, hy, habove, hno⟩ := hadopts
    obtain ⟨hymem, hyname⟩ := mem_lineage.mp hy
    have hne : m ≠ y := by
      rintro rfl
      exact Nat.lt_irrefl _ habove.length_lt
    obtain ⟨hname, hprecedes⟩ :=
      (mayAdopt_or_precedes hnames hm hymem hne (hdotted m hm)).resolve_left hno
    refine ⟨m, mem_lineage.mpr ⟨hm, .inr ?_⟩, y, hy, hname, habove, hprecedes⟩
    rcases hyname with heq | hyabove
    · exact heq ▸ habove
    · exact habove.trans hyabove

end

end Hub

end RegisterMachine.Log
