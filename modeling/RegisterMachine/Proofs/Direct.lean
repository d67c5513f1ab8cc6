import RegisterMachine.Proofs.Batch
import RegisterMachine.Proofs.Canonical

/-!
# Instructions executed directly and from a line

An instruction can be given its tokens directly, or its keyword and the tokens can be written as a
line, which is assembled, stored and stepped over. The line is taken apart into the same keyword and
tokens, so that the same operands are read or the same complaint is made
(`assembleLine_written_words`); and what is executed is the same routine. `Machine.Agree` is what
holds between the two outcomes, for the built-in instructions on a machine at rest
(`executeDirectly_agrees`).
-/

namespace RegisterMachine

/-- A line with a keyword that is known is assembled if its operands can be read. -/
theorem Language.assembleLine_of_scan {l : Language} {text : Option String} {keyword : String}
    {operands : List String} {comment : Option String} {i : Instruction}
    (hscan : Line.scan l.mark (text.getD "") = ⟨some keyword, operands, comment⟩)
    (hi : l.lookup (some keyword) = .ok i) :
    l.assembleLine text = (i.readOperands (operands.map some)).map fun values =>
      some ⟨some i, values, text, comment⟩ := by
  simp only [assembleLine, hscan, hi, bind, Except.bind]
  cases i.readOperands (operands.map some) <;> rfl

/-- The tokens of a written line are read as the operands of its keyword. -/
theorem Language.assembleLine_written_words {l : Language} (hmark : l.mark = commentMark)
    {keyword : String} {tokens : List String} {i : Instruction}
    (hupper : Text.upper keyword = keyword)
    (hwords : ∀ word ∈ keyword :: tokens, Line.IsWord word)
    (hi : l.lookup (some keyword) = .ok i) :
    let line := Line.written (keyword :: tokens) none
    l.assembleLine line =
      (i.readOperands (tokens.map some)).map fun values =>
        some ⟨some i, values, some line, none⟩ := by
  have hsharp : l.mark.toList = ['#'] := by rw [hmark]; rfl
  exact assembleLine_of_scan (Line.scan_written hsharp hupper hwords rfl) hi

theorem Line.lines_written {words : List String} (h : ∀ word ∈ words, IsWord word) :
    Text.lines (written words none) = [written words none] := by
  refine Text.lines_of_notMem ?_
  rw [toList_written_none]
  refine Text.notMem_joined (by decide) fun word hword hmem => ?_
  exact absurd ((h word hword).2 '\n' hmem).1 (by decide)

/-! ## The built-in instructions -/

namespace Language

def builtinKeywords : List String := ["SET", "ADD"]

theorem upper_builtinKeywords : ∀ k ∈ builtinKeywords, Text.upper k = k := by decide

theorem isWord_builtinKeywords : ∀ k ∈ builtinKeywords, Line.IsWord k := by decide

theorem exists_lookup_builtin (last : Nat) {k : String} (h : k ∈ builtinKeywords) :
    ∃ i, (builtin last).lookup (some k) = .ok i := by
  simp only [builtinKeywords, List.mem_cons, List.not_mem_nil, or_false] at h
  rcases h with rfl | rfl <;> exact ⟨_, rfl⟩

end Language

theorem Statement.Builtin.fit_apply {last : Nat} {s : Statement} (hs : s.Builtin last)
    {registers : List Int} (h : ∀ v ∈ registers, v.natAbs < 10 ^ 4000) :
    Registers.Fit (s.apply registers) := by
  have hpos (k : Nat) : 0 < 10 ^ k := Nat.pow_pos (by decide)
  have hone : 0 < 10 ^ 4000 := hpos 4000
  have hfits {v : Int} (hv : v.natAbs < 10 ^ 4000) : Decimal.Fits v :=
    Decimal.fits_of_lt (by omega)
  cases hs with
  | comment => exact fun v hv => hfits (h v hv)
  | @set i w line c hi hw =>
    intro v hv
    rcases List.mem_or_eq_of_mem_set hv with hv | rfl
    · exact hfits (h v hv)
    · simp only [OperandType.wordMax] at hw
      exact Decimal.fits_of_lt (by omega)
  | add line c =>
    rcases registers with _ | ⟨a, _ | ⟨b, rs⟩⟩
    · exact fun v hv => hfits (h v hv)
    · exact fun v hv => hfits (h v hv)
    · have ha := h a (by simp)
      have hb := h b (by simp)
      intro v hv
      rcases List.mem_cons.mp hv with rfl | hv
      · exact Decimal.fits_of_lt (by omega)
      · exact hfits (h v (List.mem_cons_of_mem _ hv))

namespace Machine

/-! ## Storing a line and stepping over it -/

/-- Assembles a line, stores what it leaves behind and takes a step. -/
def executeStored (m : Machine) (line : String) : Outcome Machine Unit :=
  match m.language.assembleLine line with
  | .error d => ⟨m, [], .error (.rejected d)⟩
  | .ok slot => (m.append (.sequence [slot])).andThen fun _ m' => m'.step

/-- Assembles a source text, stores its statements and takes a step. -/
def executeLoaded (m : Machine) (source : String) : Outcome Machine Unit :=
  (m.load source).andThen fun _ m' => m'.step

/-- Both outcomes of an instruction on `m` are complaints of the same kind and detail that leave the
machine alone; or both are successful and have the same registers, and the second has stored one
more statement and moved on past it. -/
inductive Agree (m : Machine) : Outcome Machine Unit → Outcome Machine Unit → Prop where
  | refused {d d' : Diagnostic} {log log' : List Event} :
      d'.kind = d.kind → d'.detail = d.detail →
      Agree m ⟨m, log, .error (.rejected d)⟩ ⟨m, log', .error (.rejected d')⟩
  | done {registers : List Int} {s : Statement} {trace : List Execution} {log log' : List Event} :
      Agree m ⟨{ m with registers := registers }, log, .ok ()⟩
        ⟨{ m with
            registers := registers
            statements := m.statements ++ [some s]
            pc := m.pc + 1
            trace := trace }, log', .ok ()⟩

theorem fetch?_store_of_rest {m : Machine} (hpc : m.pc = m.count) (s : Statement) :
    (m.store [s]).fetch? = some (some s) := by
  have hcount : ((m.store [s]).count : Int) = m.pc + 1 := by
    rw [count_store, hpc]
    rfl
  have hhalting : (m.store [s]).halting = false := by
    rw [halting_eq_false_iff, hcount]
    have hsame : (m.store [s]).pc = m.pc := rfl
    omega
  rw [fetch?, hhalting, if_neg Bool.false_ne_true]
  simp [store, hpc, count]

section
variable {last : Nat} (hlast : 1 ≤ last ∧ (last : Int) + 1 < 2 ^ 63) {m : Machine}
  (hwidth : m.registers.length = last + 1)
include hlast hwidth

/-- An instruction does directly to the registers what its statement does from its place. -/
theorem agree_of_readOperands {i : Instruction} {tokens : List (Option String)} {s : Statement}
    (hs : s.Builtin last) (hi : s.instruction = some i)
    (hread : i.readOperands tokens = .ok s.operands) (log : List Event) :
    m.Agree (m.executeDirectly i tokens) ⟨m.advance s, log, .ok ()⟩ := by
  have hexec : m.invoke i s.operands = ({ m with registers := s.apply m.registers }, .ok ()) := by
    rw [← execute_builtin hs hwidth hlast.2 (by omega), execute, hi]
  rw [executeDirectly, hread]
  dsimp only
  rw [hexec]
  exact .done

theorem append_step (hpc : m.pc = m.count) (hsmall : ∀ v ∈ m.registers, v.natAbs < 10 ^ 4000)
    {s : Statement} (hs : s.Builtin last) :
    ∃ log, ((m.append (.sequence [some s])).andThen fun _ m' => m'.step) =
      ⟨m.advance s, log, .ok ()⟩ := by
  obtain ⟨log, hstep⟩ := step_eq_pass hlast hs (fetch?_store_of_rest hpc s) hwidth
    (hs.fit_apply hsmall)
  refine ⟨.appended 1 (m.store [s]).count m.pc :: log, ?_⟩
  have happend := m.append_eq_store [s]
  rw [List.map_singleton] at happend
  rw [happend, Outcome.andThen]
  dsimp only
  rw [hstep]
  rfl

end

section
variable {m : Machine} {line : String} (hlines : Text.lines line = [line])
include hlines

theorem executeLoaded_of_error {d : Diagnostic} (h : m.language.assembleLine line = .error d) :
    m.executeLoaded line =
      ⟨m, [.assemblyFailed 1 d], .error (.rejected { d with lineNum := 1, lineText := line })⟩ := by
  have hassemble : m.language.assembleLines 1 ([] ++ line :: []) = _ :=
    Language.assembleLines_of_rejected (by simp) h (by decide) []
  rw [List.nil_append, ← hlines] at hassemble
  rw [executeLoaded, load, Language.assemble, hassemble]
  rfl

theorem executeLoaded_of_ok {s : Statement} (h : m.language.assembleLine line = .ok (some s)) :
    m.executeLoaded line = m.executeStored line := by
  have haccepts : ∀ l ∈ Text.lines line, m.language.accepts l = true := by
    simpa [hlines] using Language.accepts_iff.mpr ⟨_, h⟩
  rw [executeLoaded, load_of_accepted haccepts, hlines, Language.statements_cons h, executeStored,
    h]
  rfl

end

/-- A built-in instruction that is given its tokens on a machine at rest agrees with its line, which
is assembled alone or as a source text, stored and stepped over. -/
theorem executeDirectly_agrees (count : Int) (hmin : 2 ≤ count) (hmax : count < 2 ^ 63) :
    ∃ fresh, make count = .ok fresh ∧
      ∀ m : Machine, m.language = fresh.language → m.registers.length = count.toNat →
        m.pc = m.count → (∀ v ∈ m.registers, v.natAbs < 10 ^ 4000) →
        ∀ keyword ∈ Language.builtinKeywords, ∀ tokens : List String,
          (∀ token ∈ tokens, Line.IsWord token) →
          ∃ i, m.language.lookup (some keyword) = .ok i ∧
            m.Agree (m.executeDirectly i (tokens.map some))
              (m.executeStored (Line.written (keyword :: tokens) none)) ∧
            m.Agree (m.executeDirectly i (tokens.map some))
              (m.executeLoaded (Line.written (keyword :: tokens) none)) := by
  obtain ⟨last, rfl⟩ : ∃ last : Nat, count = last + 1 := ⟨(count - 1).toNat, by omega⟩
  refine ⟨_, make_succ hmax, fun m hlang hwidth hpc hsmall keyword hkeyword tokens htokens => ?_⟩
  have hlast : 1 ≤ last ∧ (last : Int) + 1 < 2 ^ 63 := by omega
  replace hlang : m.language = .builtin last := hlang
  replace hwidth : m.registers.length = last + 1 := by omega
  obtain ⟨i, hi⟩ := Language.exists_lookup_builtin last hkeyword
  have hwords : ∀ word ∈ keyword :: tokens, Line.IsWord word :=
    List.forall_mem_cons.mpr ⟨Language.isWord_builtinKeywords keyword hkeyword, htokens⟩
  have hline := Language.assembleLine_written_words (l := .builtin last) rfl
    (Language.upper_builtinKeywords keyword hkeyword) hwords hi
  rw [← hlang] at hi hline
  have hlines := Line.lines_written hwords
  refine ⟨i, hi, ?_⟩
  cases hread : i.readOperands (tokens.map some) with
  | error d =>
    rw [hread] at hline
    rw [executeLoaded_of_error hlines hline, executeStored, hline, executeDirectly, hread]
    exact ⟨.refused rfl rfl, .refused rfl rfl⟩
  | ok values =>
    rw [hread] at hline
    have hs := ((Language.assembleLine_eq_some_iff _ _ _).mp (hlang ▸ hline)).builtin.1
    obtain ⟨log, hstored⟩ := append_step hlast hwidth hpc hsmall hs
    have hagree := agree_of_readOperands hlast hwidth hs rfl hread log
    rw [executeLoaded_of_ok hlines hline, executeStored, hline]
    dsimp only [Except.map]
    rw [hstored]
    exact ⟨hagree, hagree⟩

/-- Tokens that are taken and tokens of which the first is not, on a machine with a negative
register that has stored a comment. -/
theorem executeDirectly_agrees_negative :
    ∃ (m : Machine) (i : Instruction), make 3 = .ok (blank 3 m.language) ∧
      m.registers = [5, -3, 8] ∧ m.pc = 1 ∧ m.count = 1 ∧
      (∀ v ∈ m.registers, v.natAbs < 10 ^ 4000) ∧ m.language.lookup (some "SET") = .ok i ∧
      m.Agree (m.executeDirectly i [some "2", some "+07"]) (m.executeStored "SET 2 +07") ∧
      (m.executeStored "SET 2 +07").state.registers = [5, -3, 7] ∧
      m.Agree (m.executeDirectly i [some "3", some "7"]) (m.executeLoaded "SET 3 7") ∧
      (m.executeDirectly i [some "3", some "7"]).result =
        .error (.rejected (.ofKind .inputRange)) := by
  obtain ⟨fresh, hmake, hagrees⟩ := executeDirectly_agrees 3 (by decide) (by decide)
  obtain rfl : blank 3 (.builtin 2) = fresh := by
    rw [show (3 : Int) = (2 : Nat) + 1 from rfl, make_succ (by decide)] at hmake
    exact Except.ok.inj hmake
  have hsmall : ∀ v ∈ [(5 : Int), -3, 8], v.natAbs < 10 ^ 4000 := by
    have hlt : ∀ v ∈ [(5 : Int), -3, 8], v.natAbs < 4000 := by decide
    exact fun v hv => Decimal.lt_ten_pow (hlt v hv)
  have hset : "SET" ∈ Language.builtinKeywords := by decide
  have h := hagrees
    ⟨[5, -3, 8], [some ⟨none, [], some "# old", some "old"⟩], 1, .builtin 2, true, []⟩
    rfl rfl rfl hsmall "SET" hset
  obtain ⟨i, hi, htaken, -⟩ := h ["2", "+07"] (by decide)
  obtain ⟨j, hj, -, hrefused⟩ := h ["3", "7"] (by decide)
  cases hi
  cases hj
  exact ⟨_, _, hmake, rfl, rfl, rfl, hsmall, rfl, htaken, rfl, hrefused, rfl⟩

end Machine

end RegisterMachine
