import RegisterMachine.Machine
import RegisterMachine.Proofs.Assembly
import RegisterMachine.Proofs.Line

/-!
# Built-in statements

A machine with the registers 0 to `last` is made with the language `Language.builtin last`.

* `Statement.Builtin last`: the statements of that language, with operands in their ranges.
  `Assembles.builtin` says that it has no others.
* `Statement.apply`: the registers after such a statement.
* `execute_builtin`: executing one has that effect and no other. The exception is `ADD` on a
  machine with a single register, which reads a register that is not there (`execute_add_single`).
-/

namespace RegisterMachine

/-! ## The language -/

/-- The built-in instructions of a machine with the registers 0 to `last`. -/
def Language.builtin (last : Nat) : Language :=
  ⟨[.setWith (.registerUpTo last), .add], commentMark⟩

theorem Machine.standardLanguage_eq : standardLanguage = .builtin 1 := rfl

theorem Machine.make_succ {last : Nat} (h : (last : Int) + 1 < 2 ^ 63) :
    make (last + 1) = .ok (blank (last + 1) (.builtin last)) := by
  have hindex : Registers.isIndex (last + 1) = true := by
    simp only [Registers.isIndex, Bool.and_eq_true, decide_eq_true_eq]
    omega
  have hset : Instruction.set (last + 1) = .ok (.setWith (.registerUpTo last)) := by
    rw [Instruction.set, OperandType.register_succ]
    rfl
  have hcount : ((last : Int) + 1).toNat = last + 1 := by omega
  rw [make, if_pos hindex, hset, hcount]
  rfl

/-- The statements of a machine with the registers 0 to `last`. -/
inductive Statement.Builtin (last : Nat) : Statement → Prop where
  | comment (line c : String) : Builtin last ⟨none, [], some line, some c⟩
  | set {i v : Int} (line : String) (c : Option String) :
      0 ≤ i ∧ i ≤ last → 0 ≤ v ∧ v ≤ OperandType.wordMax →
      Builtin last ⟨some (.setWith (.registerUpTo last)), [i, v], some line, c⟩
  | add (line : String) (c : Option String) : Builtin last ⟨some .add, [], some line, c⟩

theorem Statement.Builtin.exists_text {last : Nat} {s : Statement} (h : s.Builtin last) :
    ∃ line, s.text = some line := by
  cases h <;> exact ⟨_, rfl⟩

theorem Instruction.setWith_readOperands {last : Nat} {ts : List (Option String)} {vs : List Int}
    (h : (setWith (.registerUpTo last)).readOperands ts = .ok vs) :
    ∃ t u i v, ts = [t, u] ∧ vs = [i, v] ∧ (OperandType.registerUpTo last).read t = .ok i ∧
      OperandType.word.read u = .ok v := by
  obtain ⟨hlen, hread⟩ := (readOperands_eq_ok_iff _ _ _).mp h
  obtain ⟨t, u, rfl⟩ := List.length_eq_two.mp hlen
  simp only [setWith, List.zip_cons_cons, List.zip_nil_right] at hread
  cases hread with
  | cons hi hread =>
    cases hread with
    | cons hv hread =>
      cases hread
      exact ⟨t, u, _, _, rfl, rfl, hi, hv⟩

theorem Instruction.add_readOperands {ts : List (Option String)} {vs : List Int}
    (h : add.readOperands ts = .ok vs) : ts = [] ∧ vs = [] := by
  obtain ⟨hlen, hread⟩ := (readOperands_eq_ok_iff _ _ _).mp h
  obtain rfl := List.length_eq_zero_iff.mp hlen
  simp only [add, List.zip_nil_right] at hread
  cases hread
  exact ⟨rfl, rfl⟩

theorem OperandType.bounds_of_read {t : OperandType} {source : Option String} {v : Int}
    (h : t.read source = .ok v) : t.min ≤ v ∧ v ≤ t.max := by
  obtain ⟨-, -, -, -, -, -, hbounds⟩ := (t.read_eq_ok_iff source v).mp h
  exact hbounds

/-- The built-in instructions, told apart by their keywords. -/
theorem Language.lookup_builtin {last : Nat} {k : String} {i : Instruction}
    (h : (builtin last).lookup (some k) = .ok i) :
    (k = "SET" ∧ i = .setWith (.registerUpTo last)) ∨ (k = "ADD" ∧ i = .add) := by
  obtain ⟨hmem, hkey⟩ := lookup_eq_ok h
  simp only [builtin, List.mem_cons, List.not_mem_nil, or_false] at hmem
  rcases hmem with rfl | rfl
  · exact .inl ⟨Option.some.inj hkey, rfl⟩
  · exact .inr ⟨Option.some.inj hkey, rfl⟩

theorem Language.assembleLine_builtin_none (last : Nat) :
    (builtin last).assembleLine none = .ok none := by
  have hscan : Line.scan commentMark "" = ⟨none, [], none⟩ := by decide
  have hempty : Line.scan (builtin last).mark ((none : Option String).getD "") = ⟨none, [], none⟩ :=
    hscan
  rw [assembleLine_eq_none_iff, hempty]
  exact ⟨rfl, rfl⟩

theorem Language.scan_builtin (last : Nat) (line : String) :
    Line.scan (builtin last).mark line =
      ⟨(Line.tokens '#' line).head?.map Text.upper, (Line.tokens '#' line).tail,
        Line.remark '#' line⟩ := by
  have hmark : "#".toList = ['#'] := rfl
  exact Line.scan_eq hmark line

theorem Language.assembleLine_builtin_blank_iff (last : Nat) (line : String) :
    (builtin last).assembleLine line = .ok none ↔ Text.IsBlank line := by
  have hmark : Text.isBlank '#' = false := by decide
  rw [assembleLine_eq_none_iff, Option.getD_some, scan_builtin, Option.map_eq_none_iff,
    List.head?_eq_none_iff, Line.isBlank_iff hmark]

/-- What the built-in language assembles is built-in, and keeps its source text. -/
theorem Language.Assembles.builtin {last : Nat} {text : Option String} {s : Statement}
    (h : (Language.builtin last).Assembles text s) : s.Builtin last ∧ s.text = text := by
  obtain ⟨line, rfl⟩ : ∃ line, text = some line := by
    cases text with
    | some line => exact ⟨line, rfl⟩
    | none =>
      have hs := (assembleLine_eq_some_iff _ _ _).mpr h
      rw [assembleLine_builtin_none] at hs
      cases hs
  cases h with
  | comment => exact ⟨.comment _ _, rfl⟩
  | instruction _ hi hvs =>
    refine ⟨?_, rfl⟩
    rcases lookup_builtin hi with ⟨-, rfl⟩ | ⟨-, rfl⟩
    · obtain ⟨t, u, i, v, -, rfl, hread, hword⟩ := Instruction.setWith_readOperands hvs
      exact .set _ _ (OperandType.bounds_of_read hread) (OperandType.bounds_of_read hword)
    · obtain ⟨-, rfl⟩ := Instruction.add_readOperands hvs
      exact .add _ _

theorem Language.builtin_of_mem_statements {last : Nat} {ls : List String} {s : Statement}
    (h : s ∈ (builtin last).statements ls) : s.Builtin last := by
  obtain ⟨line, -, hline⟩ := assembles_of_mem_statements h
  exact hline.builtin.1

/-! ## Registers -/

namespace Registers

theorem locate_of_lt (outside : Fault) {size j : Nat} {i : Int} (hi : i = j) (hj : j < size)
    (hsize : (size : Int) < 2 ^ 63) : locate outside size i = .ok j := by
  have hindex : isIndex i = true := by
    simp only [isIndex, Bool.and_eq_true, decide_eq_true_eq]
    omega
  have hneg : ¬ i < 0 := by omega
  have hin : 0 ≤ i ∧ i < size := by omega
  have hpos : i.toNat = j := by omega
  simp only [locate, hindex, if_true, hneg, if_false, hin, and_self, hpos]

theorem fetch_of_getElem? (outside : Fault) {values : List Int} {j : Nat} {i v : Int} (hi : i = j)
    (hv : values[j]? = some v) (hsize : (values.length : Int) < 2 ^ 63) :
    fetch outside values i = .ok v := by
  obtain ⟨hj, -⟩ := List.getElem?_eq_some_iff.mp hv
  rw [fetch, locate_of_lt outside hi hj hsize]
  simp only [bind, Except.bind, hv]

theorem write_of_lt {registers : List Int} {j : Nat} {i : Int} (hi : i = j)
    (hj : j < registers.length) (hsize : (registers.length : Int) < 2 ^ 63) (v : Int) :
    write registers i v = .ok (registers.set j v) := by
  rw [write, locate_of_lt .writeOutside hi hj hsize]
  rfl

end Registers

/-- The registers after a statement with a built-in routine; a comment changes none. -/
def Statement.apply (s : Statement) (registers : List Int) : List Int :=
  match s.instruction.map Instruction.routine, s.operands, registers with
  | some .store, [i, v], rs => rs.set i.toNat v
  | some .accumulate, _, a :: b :: rs => (a + b) :: b :: rs
  | _, _, rs => rs

@[simp] theorem Statement.length_apply (s : Statement) (registers : List Int) :
    (s.apply registers).length = registers.length := by
  unfold apply
  split <;> simp

/-! ## Execution -/

namespace Machine

variable {last : Nat} {m : Machine}

theorem execute_set {i v : Int} {s : Statement}
    (hs : s.instruction = some (.setWith (.registerUpTo last))) (hops : s.operands = [i, v])
    (hi : 0 ≤ i ∧ i < m.registers.length) (hsize : (m.registers.length : Int) < 2 ^ 63) :
    m.execute s = ({ m with registers := m.registers.set i.toNat v }, .ok ()) := by
  have htwo : (([i, v] : List Int).length : Int) < 2 ^ 63 := by simp
  have hindex : (Argument.operand 0).read (m.view [i, v]) = .ok i :=
    Registers.fetch_of_getElem? (i := 0) (j := 0) _ rfl rfl htwo
  have hvalue : (Argument.operand 1).read (m.view [i, v]) = .ok v :=
    Registers.fetch_of_getElem? (i := 1) (j := 1) _ rfl rfl htwo
  have hwrite := Registers.write_of_lt (i := i) (j := i.toNat) (by omega) (by omega) hsize v
  have hact : m.act [i, v] (.setRegister (.operand 0) (.operand 1)) =
      .ok { m with registers := m.registers.set i.toNat v } := by
    simp only [act, hindex, hvalue, bind, Except.bind, setRegister, hwrite]
    rfl
  have haccepts : Routine.store.accepts [i, v].length = .ok () := rfl
  simp only [execute, hs, hops, invoke, Instruction.setWith, haccepts, Routine.actions, perform,
    hact]

theorem execute_add {a b : Int} {rs : List Int} {s : Statement} (hs : s.instruction = some .add)
    (hops : s.operands = []) (hrs : m.registers = a :: b :: rs)
    (hsize : (m.registers.length : Int) < 2 ^ 63) :
    m.execute s = ({ m with registers := (a + b) :: b :: rs }, .ok ()) := by
  have hfirst : (Argument.register 0).read (m.view []) = .ok a :=
    Registers.fetch_of_getElem? (i := 0) (j := 0) _ rfl (by rw [view, hrs]; rfl) hsize
  have hsecond : (Argument.register 1).read (m.view []) = .ok b :=
    Registers.fetch_of_getElem? (i := 1) (j := 1) _ rfl (by rw [view, hrs]; rfl) hsize
  have hsum : (Argument.combine (· + ·) (.register 0) (.register 1)).read (m.view []) =
      .ok (a + b) := by
    rw [Argument.read_combine, hfirst, hsecond]
    rfl
  have hwrite : Registers.write m.registers 0 (a + b) = .ok ((a + b) :: b :: rs) := by
    rw [Registers.write_of_lt (i := 0) (j := 0) rfl (by simp [hrs]) hsize, hrs]
    rfl
  have hact : m.act [] (.setRegister (.literal 0) (.combine (· + ·) (.register 0) (.register 1))) =
      .ok { m with registers := (a + b) :: b :: rs } := by
    have hindex : (Argument.literal 0).read (m.view []) = .ok 0 := rfl
    simp only [act, hindex, hsum, bind, Except.bind, setRegister, hwrite]
    rfl
  have haccepts : Routine.accumulate.accepts ([] : List Int).length = .ok () := rfl
  simp only [execute, hs, hops, invoke, Instruction.add, haccepts, Routine.actions, perform, hact]

theorem execute_add_single {s : Statement} (hs : s.instruction = some .add) (hops : s.operands = [])
    (hone : m.registers.length = 1) : m.execute s = (m, .error .readOutside) := by
  obtain ⟨a, ha⟩ := List.length_eq_one_iff.mp hone
  have hsize : (m.registers.length : Int) < 2 ^ 63 := by simp [hone]
  have hfirst : (Argument.register 0).read (m.view []) = .ok a :=
    Registers.fetch_of_getElem? (i := 0) (j := 0) _ rfl (by rw [view, ha]; rfl) hsize
  have hsecond : (Argument.register 1).read (m.view []) = .error .readOutside := by
    have hlocate : Registers.locate .readOutside 1 1 = .error .readOutside := by decide
    show Registers.fetch .readOutside m.registers 1 = _
    rw [Registers.fetch, hone, hlocate]
    rfl
  have hact : m.act [] (.setRegister (.literal 0) (.combine (· + ·) (.register 0) (.register 1))) =
      .error .readOutside := by
    have hindex : (Argument.literal 0).read (m.view []) = .ok 0 := rfl
    have hsum : (Argument.combine (· + ·) (.register 0) (.register 1)).read (m.view []) =
        .error .readOutside := by
      rw [Argument.read_combine, hfirst, hsecond]
      rfl
    simp only [act, hindex, hsum, bind, Except.bind]
  have haccepts : Routine.accumulate.accepts ([] : List Int).length = .ok () := rfl
  simp only [execute, hs, hops, invoke, Instruction.add, haccepts, Routine.actions, perform, hact]

/-- A built-in statement changes the registers by `Statement.apply` and nothing else. -/
theorem execute_builtin {s : Statement} (hs : s.Builtin last)
    (hlen : m.registers.length = last + 1) (hsize : (last : Int) + 1 < 2 ^ 63)
    (hadd : last = 0 → s.instruction ≠ some .add) :
    m.execute s = ({ m with registers := s.apply m.registers }, .ok ()) := by
  have hregs : (m.registers.length : Int) < 2 ^ 63 := by omega
  cases hs with
  | comment => rfl
  | set line c hi hv => exact execute_set rfl rfl (by omega) hregs
  | add line c =>
    have htwo : 2 ≤ m.registers.length := by
      have hne : last ≠ 0 := fun h => hadd h rfl
      omega
    obtain ⟨a, b, rs, hrs⟩ : ∃ a b rs, m.registers = a :: b :: rs := by
      rcases hm : m.registers with _ | ⟨a, _ | ⟨b, rs⟩⟩
      · simp [hm] at htwo
      · simp [hm] at htwo
      · exact ⟨a, b, rs, rfl⟩
    rw [execute_add rfl rfl hrs hregs, hrs]
    rfl

/-- Assembly is the only check that statements need, except that a machine with one register takes
an `ADD` that it cannot execute: it then faults and stays as it is. -/
theorem execute_assembled_iff (count : Int) (hpos : 1 ≤ count) (hcount : count < 2 ^ 63) :
    ∃ fresh, make count = .ok fresh ∧
      ∀ (m : Machine) (text : Option String) (s : Statement),
        m.language = fresh.language → m.registers.length = count.toNat →
        m.language.assembleLine text = .ok (some s) →
        ((m.execute s).2 = .ok () ↔ ¬ (count = 1 ∧ s.instruction = some .add)) ∧
          (count = 1 ∧ s.instruction = some .add → m.execute s = (m, .error .readOutside)) := by
  obtain ⟨last, rfl⟩ : ∃ last : Nat, count = last + 1 := ⟨(count - 1).toNat, by omega⟩
  refine ⟨_, make_succ hcount, fun m text s hlang hlen hs => ?_⟩
  rw [hlang] at hs
  have hbuiltin : s.Builtin last := ((Language.assembleLine_eq_some_iff _ _ _).mp hs).builtin.1
  have hfail : ((last : Int) + 1 = 1 ∧ s.instruction = some .add) →
      m.execute s = (m, .error .readOutside) := by
    rintro ⟨hone, hadd⟩
    have hops : s.operands = [] := by
      cases hbuiltin with
      | comment => rfl
      | set => simp [Instruction.setWith, Instruction.add] at hadd
      | add => rfl
    exact execute_add_single hadd hops (by omega)
  refine ⟨⟨fun hok hbad => ?_, fun hgood => ?_⟩, hfail⟩
  · rw [hfail hbad] at hok
    cases hok
  · rw [execute_builtin hbuiltin (by omega) hcount fun h hadd => hgood ⟨by omega, hadd⟩]

/-- A machine with three registers, and an `ADD` that it can execute. -/
theorem execute_assembled_three :
    ∃ fresh, make 3 = .ok fresh ∧ ∃ s, fresh.language.assembleLine "add # sum" = .ok (some s) ∧
      s.instruction = some .add ∧ (fresh.execute s).2 = .ok () := by
  obtain ⟨fresh, hmake, h⟩ := execute_assembled_iff 3 (by decide) (by decide)
  have hfresh : fresh = blank 3 (.builtin 2) := by
    rw [show (3 : Int) = (2 : Nat) + 1 from rfl, make_succ (by decide)] at hmake
    exact (Except.ok.inj hmake).symm
  subst hfresh
  exact ⟨_, hmake, _, rfl, rfl, (h _ "add # sum" _ rfl rfl rfl).1.mpr (by simp)⟩

/-- The only register of a machine is not enough for `ADD`, which is assembled all the same. -/
theorem execute_add_one_register :
    ∃ fresh s, make 1 = .ok fresh ∧ fresh.language.assembleLine "ADD" = .ok (some s) ∧
      fresh.execute s = (fresh, .error .readOutside) :=
  ⟨_, _, rfl, rfl, rfl⟩

end Machine

end RegisterMachine
