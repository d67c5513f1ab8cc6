import Mathlib.Data.List.Nodup
import Mathlib.Logic.Relation
import RegisterMachine.Proofs.Commuting
import RegisterMachine.Proofs.Operation
import RegisterMachine.Proofs.Session
import RegisterMachine.Proofs.Verdict

/-!
# The order of instructions

Only the first instruction with a keyword counts. `Language.SameFirsts`: two lists of instructions
have the same first ones. So it is if one is a reordering of the other without repeated keywords
(`sameFirsts_of_perm`), or if they differ in instructions behind others of the same keyword
(`sameFirsts_of_eqvGen`). Languages of such instructions assemble all texts alike, and machines that
speak them cannot be told apart by a session, except by asking for help
(`sameFirsts_indistinguishable`).
-/

namespace RegisterMachine

namespace Language

/-! ## First instructions -/

/-- The same instruction is the first with a keyword, or no instruction has it. -/
def SameFirsts (xs ys : List Instruction) : Prop :=
  ∀ k ≠ "", ∀ i, FirstWith k xs i ↔ FirstWith k ys i

/-- One more instruction stands in `ys`, behind another of the same keyword. -/
def Repeats (xs ys : List Instruction) : Prop :=
  ∃ front i back, xs = front ++ back ∧ ys = front ++ i :: back ∧
    i.keyword ∈ front.map Instruction.keyword

theorem firstWith_of_nodup {xs : List Instruction} (h : (xs.map Instruction.keyword).Nodup)
    {k : String} {i : Instruction} : FirstWith k xs i ↔ i ∈ xs ∧ i.keyword = k := by
  constructor
  · rintro ⟨before, after, rfl, hk, -⟩
    exact ⟨List.mem_append_right _ List.mem_cons_self, hk⟩
  · rintro ⟨hi, rfl⟩
    obtain ⟨before, after, rfl⟩ := List.append_of_mem hi
    refine ⟨before, after, rfl, rfl, fun j hj hsame => ?_⟩
    rw [List.map_append, List.nodup_append] at h
    exact h.2.2 _ (List.mem_map_of_mem hj) _ (List.mem_map_of_mem List.mem_cons_self) hsame

theorem sameFirsts_of_perm {xs ys : List Instruction} (h : xs.Perm ys)
    (hxs : (xs.map Instruction.keyword).Nodup) : SameFirsts xs ys := by
  have hys : (ys.map Instruction.keyword).Nodup := (h.map _).nodup_iff.mp hxs
  intro k _ i
  rw [firstWith_of_nodup hxs, firstWith_of_nodup hys, h.mem_iff]

/-- What stands behind an instruction of the same keyword is not found. -/
theorem sameFirsts_of_repeats {xs ys : List Instruction} (h : Repeats xs ys) :
    SameFirsts xs ys := by
  obtain ⟨front, i, back, rfl, rfl, hi⟩ := h
  intro k _ j
  rw [firstWith_iff_find?, firstWith_iff_find?, List.find?_append, List.find?_append,
    List.find?_cons]
  by_cases hk : i.keyword = k
  · -- the front has the keyword, so that the rest of neither list is searched
    obtain ⟨i', hi', hkeyword⟩ := List.mem_map.mp hi
    have hfront : (front.find? (·.keyword == k)).isSome :=
      List.find?_isSome.mpr ⟨i', hi', by simp [hkeyword, hk]⟩
    obtain ⟨first, hfirst⟩ := Option.isSome_iff_exists.mp hfront
    rw [hfirst, Option.some_or, Option.some_or]
  · rw [beq_false_of_ne hk]

theorem sameFirsts_of_eqvGen {xs ys : List Instruction} (h : Relation.EqvGen Repeats xs ys) :
    SameFirsts xs ys := by
  induction h with
  | rel _ _ h => exact sameFirsts_of_repeats h
  | refl _ => exact fun _ _ _ => Iff.rfl
  | symm _ _ _ ih => exact fun k hk i => (ih k hk i).symm
  | trans _ _ _ _ _ ih ih' => exact fun k hk i => (ih k hk i).trans (ih' k hk i)

/-! ## Assembly -/

/-- The first instructions are all that can be found, and each of them can be. -/
theorem sameFirsts_iff_lookup {xs ys : List Instruction} (mark : String) :
    SameFirsts xs ys ↔ ∀ keyword, lookup ⟨xs, mark⟩ keyword = lookup ⟨ys, mark⟩ keyword := by
  constructor
  · intro h keyword
    unfold lookup
    split
    · rfl
    · next k hk =>
      have hne : k ≠ "" := by simpa using (Option.filter_eq_some_iff.mp hk).2
      have hfind : xs.find? (·.keyword == k) = ys.find? (·.keyword == k) := by
        ext i
        rw [← firstWith_iff_find?, ← firstWith_iff_find?, h k hne i]
      simp only [hfind]
  · intro h k hk i
    rw [← lookup_eq_ok_iff_firstWith mark hk, ← lookup_eq_ok_iff_firstWith mark hk, h]

section
variable {l l' : Language} (hmark : l'.mark = l.mark) (hlookup : ∀ k, l'.lookup k = l.lookup k)
include hmark hlookup

theorem assembleLine_congr (text : Option String) : l'.assembleLine text = l.assembleLine text := by
  unfold assembleLine
  simp only [hmark, hlookup]

theorem assembleLines_congr (n : Nat) (ls : List String) :
    l'.assembleLines n ls = l.assembleLines n ls := by
  induction ls generalizing n with
  | nil => rfl
  | cons line ls ih => rw [assembleLines, assembleLines, assembleLine_congr hmark hlookup, ih]

theorem assemble_congr (source : String) : l'.assemble source = l.assemble source :=
  assembleLines_congr hmark hlookup 1 (Text.lines source)

end

end Language

/-! ## Sessions -/

namespace Machine

def speaking (m : Machine) (l : Language) : Machine := { m with language := l }

theorem commutes_speaking (l : Language) : Commutes (speaking · l) where
  registers _ := rfl
  statements _ := rfl
  pc _ := rfl
  setPc _ _ := rfl
  applied _ _ := rfl
  keepTrace m e := by
    rw [keepTrace_eq, keepTrace_eq]
    rfl
  append _ offer := by cases offer <;> rfl

end Machine

namespace Repl

theorem language_respond (fuel : Nat) (m : Machine) (text : Option String) :
    (respond fuel m text).state.language = m.language := by
  rw [state_respond]
  cases taken m text with
  | none => rfl
  | some s => exact (Machine.frame_run fuel _).language

theorem session_keeps_language (fuel : Machine → Nat) (m : Machine) (ls : List String) :
    (session fuel m ls).language = m.language := by
  induction ls generalizing m with
  | nil => rfl
  | cons line ls ih => exact (ih _).trans (language_respond (fuel m) m (some line))

section
variable {l : Language} {m : Machine} (hmark : l.mark = m.language.mark)
  (hlookup : ∀ k, l.lookup k = m.language.lookup k)
include hmark hlookup

theorem respond_speaking (fuel : Nat) {text : Option String}
    (hhelp : (Line.scan m.language.mark (text.getD "")).keyword ≠ some helpKeyword) :
    respond fuel (m.speaking l) text = (respond fuel m text).within (·.speaking l) :=
  respond_commutes (Machine.commutes_speaking l) fuel hmark
    (Language.assembleLine_congr hmark hlookup text) fun h => absurd h hhelp

/-- Help may be different, but it leaves the machine alone. -/
theorem state_respond_speaking (fuel : Nat) (text : Option String) :
    (respond fuel (m.speaking l) text).state = (respond fuel m text).state.speaking l := by
  by_cases hhelp : (Line.scan m.language.mark (text.getD "")).keyword = some helpKeyword
  · have hhelp' : (Line.scan (m.speaking l).language.mark (text.getD "")).keyword =
        some helpKeyword := by
      rw [← hhelp, ← hmark]
      rfl
    rw [respond, if_pos hhelp', respond, if_pos hhelp, Outcome.state_ofFaulty,
      Outcome.state_ofFaulty]
  · rw [respond_speaking hmark hlookup fuel hhelp]
    rfl

theorem session_speaking (fuel : Nat) (ls : List String) :
    session (fun _ => fuel) (m.speaking l) ls = (session (fun _ => fuel) m ls).speaking l := by
  induction ls generalizing m with
  | nil => rfl
  | cons line ls ih =>
    have hlanguage := language_respond fuel m (some line)
    have hnext := ih (m := (respond fuel m (some line)).state) (by rw [hlanguage, hmark])
      (by rw [hlanguage]; exact hlookup)
    rw [← state_respond_speaking hmark hlookup] at hnext
    exact hnext

end

end Repl

open Repl (helpKeyword respond session) in
/-- Instructions whose first ones with a keyword are the same, and only these, make languages that
cannot be told apart: not by looking up a keyword, by assembling a line or a text, or by a session
on a machine that speaks one or the other. After the same lines, where each run may take any number
of steps, the machines differ in nothing but the language, and a line that does not ask for help has
the same outcome on both. -/
theorem Language.sameFirsts_indistinguishable (xs ys : List Instruction) :
    (xs.Perm ys → (xs.map Instruction.keyword).Nodup → SameFirsts xs ys) ∧
      (Relation.EqvGen Repeats xs ys → SameFirsts xs ys) ∧
      (∀ mark, SameFirsts xs ys ↔
        ∀ keyword, lookup ⟨xs, mark⟩ keyword = lookup ⟨ys, mark⟩ keyword) ∧
      (SameFirsts xs ys → ∀ mark,
        (∀ text, assembleLine ⟨xs, mark⟩ text = assembleLine ⟨ys, mark⟩ text) ∧
        (∀ source, assemble ⟨xs, mark⟩ source = assemble ⟨ys, mark⟩ source) ∧
        ∀ (m : Machine) (fuel : Nat) (ls : List String),
          session (fun _ => fuel) (m.speaking ⟨ys, mark⟩) ls =
            (session (fun _ => fuel) (m.speaking ⟨xs, mark⟩) ls).speaking ⟨ys, mark⟩ ∧
          ∀ line, (Line.scan mark line).keyword ≠ some helpKeyword →
            respond fuel (session (fun _ => fuel) (m.speaking ⟨ys, mark⟩) ls) (some line) =
              (respond fuel (session (fun _ => fuel) (m.speaking ⟨xs, mark⟩) ls)
                (some line)).within (·.speaking ⟨ys, mark⟩)) := by
  refine ⟨sameFirsts_of_perm, sameFirsts_of_eqvGen, sameFirsts_iff_lookup, fun h mark => ?_⟩
  have hlookup := (sameFirsts_iff_lookup mark).mp h
  have hlookup' := fun keyword => (hlookup keyword).symm
  refine ⟨assembleLine_congr rfl hlookup, assemble_congr rfl hlookup, fun m fuel ls => ?_⟩
  have hmark : (⟨ys, mark⟩ : Language).mark = (m.speaking ⟨xs, mark⟩).language.mark := rfl
  have hsession := Repl.session_speaking hmark hlookup' fuel ls
  refine ⟨hsession, fun line hhelp => ?_⟩
  have hlanguage := Repl.session_keeps_language (fun _ => fuel) (m.speaking ⟨xs, mark⟩) ls
  rw [← hlanguage] at hmark
  rw [show m.speaking ⟨ys, mark⟩ = (m.speaking ⟨xs, mark⟩).speaking ⟨ys, mark⟩ from rfl, hsession]
  exact Repl.respond_speaking hmark (by rw [hlanguage]; exact hlookup') fuel
    (by rw [hlanguage]; exact hhelp)

open Repl (respond session) in
/-- The instructions in another order and a second `ADD`, which takes an operand: a session with a
question for help adds as before. -/
theorem Language.sameFirsts_indistinguishable_reordered :
    ∃ set add add' : Instruction,
      add.keyword = "ADD" ∧ add'.keyword = "ADD" ∧ add'.operands.length ≠ add.operands.length ∧
      [set, add].Perm [add, set] ∧ ([set, add].map Instruction.keyword).Nodup ∧
      SameFirsts [set, add] [add, set] ∧
      Relation.EqvGen Repeats [add, set] [add, set, add'] ∧
      SameFirsts [add, set] [add, set, add'] ∧
      ∃ m m' : Machine, m = Machine.standard.speaking ⟨[add, set], commentMark⟩ ∧
        m' = Machine.standard.speaking ⟨[add, set, add'], commentMark⟩ ∧
        (session (fun _ => 1) m ["SET 1 5", "help", "SET 0 2"]).registers = [2, 5] ∧
        (respond 1 (session (fun _ => 1) m ["SET 1 5", "help", "SET 0 2"]) "ADD").state.registers =
          [7, 5] ∧
        respond 1 (session (fun _ => 1) m' ["SET 1 5", "help", "SET 0 2"]) "ADD" =
          (respond 1 (session (fun _ => 1) m ["SET 1 5", "help", "SET 0 2"]) "ADD").within
            (·.speaking ⟨[add, set, add'], commentMark⟩) := by
  have hrepeats : Relation.EqvGen Repeats [.add, .setWith .word]
      [.add, .setWith .word, { Instruction.add with operands := [⟨"n", .word⟩] }] :=
    .rel _ _ ⟨[.add, .setWith .word], _, [], rfl, rfl, List.mem_cons_self⟩
  obtain ⟨hperm, -⟩ := sameFirsts_indistinguishable [.setWith .word, .add] [.add, .setWith .word]
  obtain ⟨-, heqv, -, hsame⟩ := sameFirsts_indistinguishable _ _
  refine ⟨.setWith .word, .add, { Instruction.add with operands := [⟨"n", .word⟩] }, rfl, rfl,
    by decide, .swap _ _ _, by decide, hperm (.swap _ _ _) (by decide), hrepeats, heqv hrepeats,
    _, _, rfl, rfl, by decide +kernel, by decide +kernel, ?_⟩
  exact ((hsame (heqv hrepeats) commentMark).2.2 .standard 1 _).2 "ADD" (by decide +kernel)

end RegisterMachine
