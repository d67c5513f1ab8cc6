import RegisterMachine.Repl
import RegisterMachine.Proofs.Program

/-!
# Sessions and programs

A session answers lines one after another on one machine. Lines that are not accepted leave the
machine as it is (`respond_of_rejected`) and the others advance it like the lines of a program do
(`respond_of_statement`), so that a session is a program made of its accepted lines
(`session_eq_program`).
-/

namespace RegisterMachine

namespace Repl

open Machine (standardLanguage)

section
variable (fuel : Machine → Nat)

/-- The machine after the lines of a session. The run of a line may take `fuel m` steps if `m` is
the machine before it. -/
def session (m : Machine) (ls : List String) : Machine :=
  ls.foldl (fun m line => (respond (fuel m) m (some line)).state) m

def answers (m : Machine) : List String → List (Except Failure String)
  | [] => []
  | line :: rest =>
    (respond (fuel m) m (some line)).result ::
      answers (respond (fuel m) m (some line)).state rest

/-- The answers to the accepted lines that are not blank. -/
def shown (m : Machine) (ls : List String) : List (Except Failure String) :=
  ((ls.zip (answers fuel m ls)).filter fun q =>
    standardLanguage.accepts q.1 && !decide (Text.IsBlank q.1)).map Prod.snd

theorem answers_getElem? (m : Machine) (ls : List String) (k : Nat) :
    (answers fuel m ls)[k]? = ls[k]?.map fun line =>
      let before := session fuel m (ls.take k)
      (respond (fuel before) before (some line)).result := by
  induction ls generalizing m k with
  | nil => rfl
  | cons line ls ih =>
    cases k with
    | zero => rfl
    | succ k => exact ih (respond (fuel m) m (some line)).state k

end

/-! ## One line -/

section
variable {m : Machine} {line : String}

/-- `HELP` is no instruction, so that a line that asks for help is never accepted. -/
theorem keyword_of_accepts (h : standardLanguage.accepts line = true) :
    (Line.scan commentMark line).keyword ≠ some helpKeyword := by
  obtain ⟨slot, hslot⟩ := Language.accepts_iff.mp h
  cases slot with
  | none =>
    have hkey := ((Language.assembleLine_eq_none_iff _ _).mp hslot).1
    intro hhelp
    cases hkey.symm.trans hhelp
  | some s =>
    intro hhelp
    cases (Language.assembleLine_eq_some_iff _ _ _).mp hslot with
    | comment hkey => cases hkey.symm.trans hhelp
    | instruction hkey hi =>
      cases hkey.symm.trans hhelp
      rcases Language.lookup_builtin hi with ⟨hset, -⟩ | ⟨hadd, -⟩
      · exact absurd hset (by decide)
      · exact absurd hadd (by decide)

variable (hlang : m.language = standardLanguage)
include hlang

theorem respond_eq (k : Nat) (hhelp : (Line.scan commentMark line).keyword ≠ some helpKeyword) :
    respond k m (some line) =
      match standardLanguage.assembleLine (some line) with
      | .error d => ⟨m, [.lineRejected (some line) d], .ok (errorText d)⟩
      | .ok none => .ofFaulty m m.summary
      | .ok (some s) =>
        ((m.append (.sequence [some s])).andThen fun _ m' => m'.run k).andThen fun _ m' =>
          .ofFaulty m' m'.summary := by
  have hmark : m.language.mark = commentMark := by rw [hlang]; rfl
  unfold respond
  rw [hmark, Option.getD_some, if_neg hhelp]
  rcases hslot : standardLanguage.assembleLine (some line) with d | _ | s <;>
    simp only [hlang, hslot]

theorem respond_of_rejected (k : Nat) (h : standardLanguage.accepts line = false) :
    (respond k m (some line)).state = m := by
  obtain ⟨d, hd⟩ := Language.accepts_eq_false_iff.mp h
  by_cases hhelp : (Line.scan commentMark line).keyword = some helpKeyword
  · have hmark : m.language.mark = commentMark := by rw [hlang]; rfl
    unfold respond
    rw [hmark, Option.getD_some, if_pos hhelp, Outcome.state_ofFaulty]
  · rw [respond_eq hlang k hhelp, hd]

theorem respond_of_error {d : Diagnostic} (k : Nat)
    (hhelp : (Line.scan commentMark line).keyword ≠ some helpKeyword)
    (h : standardLanguage.assembleLine line = .error d) :
    (respond k m (some line)).result = .ok ("ERROR: " ++ d.detail ++ ".") := by
  rw [respond_eq hlang k hhelp, h]
  simp only [errorText, (Language.plain_of_assembleLine h).message_eq]

theorem respond_of_blank (k : Nat) (h : standardLanguage.assembleLine line = .ok none) :
    (respond k m (some line)).state = m := by
  have hhelp := keyword_of_accepts (Language.accepts_iff.mpr ⟨none, h⟩)
  rw [respond_eq hlang k hhelp, h]
  exact Outcome.state_ofFaulty _ _

/-- A statement is stored and run, and the registers are the answer. -/
theorem respond_of_statement {n k : Nat} {s : Statement} (hm : m.Awaits 1 n [])
    (h : standardLanguage.assembleLine line = .ok (some s)) (hn : n + 1 < 10 ^ 4000)
    (hk : 1 ≤ k) :
    (respond k m (some line)).state = m.advance s ∧
      (respond k m (some line)).result = .ok (Registers.text (m.advance s).registers) := by
  have hhelp := keyword_of_accepts (Language.accepts_iff.mpr ⟨some s, h⟩)
  have hs : s.Builtin 1 := ((Language.assembleLine_eq_some_iff _ _ _).mp h).builtin.1
  obtain ⟨log, hrun⟩ := hm.append_run_single (by decide) hs hn (fun _ => k) hk
  have hsummary : (m.advance s).summary = .ok (Registers.text (m.advance s).registers) :=
    if_pos (hm.fit_advance hs hn)
  rw [respond_eq hlang k hhelp, h]
  dsimp only
  rw [hrun]
  simp only [Outcome.andThen, hsummary, Outcome.ofFaulty, Outcome.done, and_self]

end

/-! ## Whole sessions -/

theorem shown_cons (fuel : Machine → Nat) (m : Machine) (line : String) (ls : List String) :
    shown fuel m (line :: ls) =
      (if standardLanguage.accepts line = true ∧ ¬ Text.IsBlank line then
        [(respond (fuel m) m (some line)).result] else []) ++
        shown fuel (respond (fuel m) m (some line)).state ls := by
  unfold shown
  rw [answers, List.zip_cons_cons, List.filter_cons]
  by_cases h : standardLanguage.accepts line = true ∧ ¬ Text.IsBlank line
  · simp [h]
  · rw [if_neg h, if_neg (by simpa using h), List.nil_append]

/-- A session does to the machine of a program, and adds to its output, what its accepted lines do
in the program. -/
theorem session_note {fuel : Machine → Nat} (hfuel : ∀ m, 1 ≤ fuel m) {p : Program} {n : Nat}
    {ls : List String} (hlang : p.machine.language = standardLanguage)
    (h : p.machine.Awaits 1 n []) (hn : n + ls.length < 10 ^ 4000) :
    session fuel p.machine ls =
        ((standardLanguage.statements (ls.filter standardLanguage.accepts)).foldl
          Program.note p).machine ∧
      p.output.map Except.ok ++ shown fuel p.machine ls =
        ((standardLanguage.statements (ls.filter standardLanguage.accepts)).foldl
          Program.note p).output.map Except.ok := by
  -- the program goes along with the session: `p` is what the lines so far have made of it
  induction ls generalizing p n with
  | nil => exact ⟨rfl, List.append_nil _⟩
  | cons line ls ih =>
    simp only [List.length_cons] at hn
    rw [shown_cons, List.filter_cons]
    have hcons : session fuel p.machine (line :: ls) =
        session fuel (respond (fuel p.machine) p.machine (some line)).state ls := rfl
    rw [hcons]
    cases haccepts : standardLanguage.accepts line with
    | false =>
      rw [respond_of_rejected hlang _ haccepts]
      simpa using ih hlang h (by omega)
    | true =>
      obtain ⟨slot, hslot⟩ := Language.accepts_iff.mp haccepts
      have hblank := Language.assembleLine_builtin_blank_iff 1 line
      rw [← Machine.standardLanguage_eq, hslot] at hblank
      rw [if_pos rfl, Language.statements_cons hslot]
      cases slot with
      | none =>
        rw [respond_of_blank hlang _ hslot]
        simpa [hblank.mp rfl] using ih hlang h (by omega)
      | some s =>
        have hs : s.Builtin 1 := ((Language.assembleLine_eq_some_iff _ _ _).mp hslot).builtin.1
        obtain ⟨hstate, hresult⟩ := respond_of_statement hlang h hslot (by omega)
          (hfuel p.machine)
        have hadds := s.adds_le_one
        have hnext := ih (p := p.note s) hlang (h.advance hs) (by omega)
        have houtput : (p.note s).output.map Except.ok = p.output.map Except.ok ++
            [(.ok (Registers.text (p.machine.advance s).registers) : Except Failure String)] :=
          List.map_append
        have hnotBlank : ¬ Text.IsBlank line := fun hb => by cases hblank.mpr hb
        rw [houtput, List.append_assoc] at hnext
        rw [hstate, hresult, if_pos ⟨rfl, hnotBlank⟩]
        exact hnext

theorem runText_of_rejected_line {line : String} {d : Diagnostic} (hline : '\n' ∉ line.toList)
    (hd : standardLanguage.assembleLine line = .error d) :
    ∃ q log e, Program.runText line false = ⟨q, log, .ok ()⟩ ∧ q.error = some e ∧
      e.detail = d.detail := by
  have hsource : Text.lines line = [] ++ line :: [] := Text.lines_of_notMem hline
  have hn : (Text.lines line).length < 10 ^ 4000 := by
    rw [hsource]
    exact Decimal.lt_ten_pow (by simp)
  obtain ⟨log, hrun⟩ := Program.runText_of_rejected false hsource (by simp) hd hn
  exact ⟨_, log, _, hrun, rfl, rfl⟩

section
variable {fuel : Machine → Nat} (hfuel : ∀ m, 1 ≤ fuel m) {ls : List String}
  (hn : ls.length < 10 ^ 4000)
include hfuel hn

theorem session_standard :
    session fuel .standard ls =
      (standardLanguage.statements (ls.filter standardLanguage.accepts)).foldl
        Machine.advance .standard := by
  have hrest := Program.awaits_ofText "" false
  have hnote := (session_note hfuel rfl hrest (by rwa [Nat.zero_add])).1
  rwa [Program.machine_foldl_note] at hnote

theorem language_session : (session fuel .standard ls).language = standardLanguage := by
  rw [session_standard hfuel hn, Machine.language_foldl_advance]
  rfl

theorem pc_session : (session fuel .standard ls).pc = (session fuel .standard ls).count := by
  rw [session_standard hfuel hn]
  have hbuiltin : ∀ s ∈ standardLanguage.statements
      (ls.filter standardLanguage.accepts), s.Builtin 1 :=
    fun s hs => Language.builtin_of_mem_statements hs
  exact ((Machine.awaits_blank 1 standardLanguage).foldl_advance hbuiltin).pc_eq_count

end

/-- A session is a program made of its accepted lines: same machine, and same output for the lines
that are not blank. Every other line is answered by the help text or by the error that it would be
as a program, and the machine is at rest after each line. -/
theorem session_eq_program (fuel : Machine → Nat) (hfuel : ∀ m, 1 ≤ fuel m) (ls : List String)
    (hls : ∀ line ∈ ls, '\n' ∉ line.toList) (hn : ls.length < 10 ^ 4000) :
    ∃ p log,
      Program.runText (Text.joined "\n" (ls.filter standardLanguage.accepts)) false =
        ⟨p, log, .ok ()⟩ ∧
      session fuel .standard ls = p.machine ∧
      shown fuel .standard ls ++ [.ok "HALT"] = p.output.map Except.ok ∧
      (∀ line ∈ ls, (Line.scan commentMark line).keyword = some helpKeyword →
        standardLanguage.accepts line = false) ∧
      (∀ (k : Nat) (line : String), ls[k]? = some line →
        standardLanguage.accepts line = false →
        (Line.scan commentMark line).keyword ≠ some helpKeyword →
        ∃ q log d, Program.runText line false = ⟨q, log, .ok ()⟩ ∧ q.error = some d ∧
          (answers fuel .standard ls)[k]? = some (.ok ("ERROR: " ++ d.detail ++ "."))) ∧
      ∀ k, (session fuel .standard (ls.take k)).pc =
        (session fuel .standard (ls.take k)).count := by
  have haccepts : ∀ line ∈ ls.filter standardLanguage.accepts,
      standardLanguage.accepts line = true := fun line hline => (List.mem_filter.mp hline).2
  have hlines : ∀ line ∈ ls.filter standardLanguage.accepts, '\n' ∉ line.toList :=
    fun line hline => hls line (List.mem_filter.mp hline).1
  have hlen : (ls.filter standardLanguage.accepts).length < 10 ^ 4000 :=
    Nat.lt_of_le_of_lt (List.length_filter_le _ _) hn
  obtain ⟨log, hrun⟩ := Program.runText_of_accepted false
    (Language.accepts_of_mem_lines_joined hlines haccepts) (Text.length_lines_joined_lt hlines hlen)
  rw [Language.statements_lines_joined hlines] at hrun
  have hrest := Program.awaits_ofText
    (Text.joined "\n" (ls.filter standardLanguage.accepts)) false
  have hlt : 0 + ls.length < 10 ^ 4000 := by rwa [Nat.zero_add]
  obtain ⟨hmachine, houtput⟩ := session_note hfuel rfl hrest hlt
  have htake (k : Nat) : (ls.take k).length < 10 ^ 4000 :=
    Nat.lt_of_le_of_lt (List.length_take_le' k ls) hn
  refine ⟨_, log, hrun, hmachine, ?_, ?_, ?_, ?_⟩
  · rw [Program.say, List.map_append, ← houtput]
    rfl
  · intro line _ hhelp
    by_contra hnot
    exact keyword_of_accepts (by simpa using hnot) hhelp
  · intro k line hk hreject hhelp
    obtain ⟨d, hd⟩ := Language.accepts_eq_false_iff.mp hreject
    obtain ⟨q, log, e, hq, he, hdetail⟩ :=
      runText_of_rejected_line (hls line (List.mem_of_getElem? hk)) hd
    refine ⟨q, log, e, hq, he, ?_⟩
    rw [answers_getElem?, hk, Option.map_some,
      respond_of_error (language_session hfuel (htake k)) _ hhelp hd, hdetail]
  · intro k
    exact pc_session hfuel (htake k)

/-- A session with a blank line, a question for help, a register that is not there and a comment. -/
theorem session_eq_program_mixed :
    (∀ m : Machine, 1 ≤ m.count + 1) ∧
      (∀ line ∈ ["set 1 5", " ", "help me", "ADD", "SET 9 9", "# end"], '\n' ∉ line.toList) ∧
      ["set 1 5", " ", "help me", "ADD", "SET 9 9", "# end"].length < 10 ^ 4000 ∧
      ∃ p log, Program.runText "set 1 5\n \nADD\n# end" false = ⟨p, log, .ok ()⟩ ∧
        session (fun m => m.count + 1) .standard
          ["set 1 5", " ", "help me", "ADD", "SET 9 9", "# end"] = p.machine ∧
        shown (fun m => m.count + 1) .standard
          ["set 1 5", " ", "help me", "ADD", "SET 9 9", "# end"] ++ [.ok "HALT"] =
            p.output.map Except.ok ∧
        ∃ q log d, Program.runText "SET 9 9" false = ⟨q, log, .ok ()⟩ ∧ q.error = some d ∧
          (answers (fun m => m.count + 1) .standard
            ["set 1 5", " ", "help me", "ADD", "SET 9 9", "# end"])[4]? =
              some (.ok ("ERROR: " ++ d.detail ++ ".")) := by
  have hfuel (m : Machine) : 1 ≤ m.count + 1 := Nat.le_add_left 1 m.count
  have hls : ∀ line ∈ ["set 1 5", " ", "help me", "ADD", "SET 9 9", "# end"],
      '\n' ∉ line.toList := by decide
  have hn : ["set 1 5", " ", "help me", "ADD", "SET 9 9", "# end"].length < 10 ^ 4000 :=
    Decimal.lt_ten_pow (by decide)
  obtain ⟨p, log, hrun, hmachine, hshown, -, hreject, -⟩ :=
    session_eq_program (fun m => m.count + 1) hfuel _ hls hn
  exact ⟨hfuel, hls, hn, p, log, hrun, hmachine, hshown,
    hreject 4 "SET 9 9" rfl (by decide) (by decide)⟩

end Repl

end RegisterMachine
