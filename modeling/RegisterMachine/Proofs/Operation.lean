import RegisterMachine.Repl
import RegisterMachine.Proofs.Assembly
import RegisterMachine.Proofs.Text.Lines

/-!
# Operations on a machine

`Operation` lists what can be asked of a machine, questions to its language included, and
`Operation.apply` is what becomes of the machine and what is answered. Only assembly refuses: an
operation that ends with a diagnostic, or a line of a session that is answered by one, leaves the
machine as it was (`Operation.state_of_refused`), and execution never ends that way.

`respond_cases` says once what a session can make of a line.
-/

namespace RegisterMachine

def Outcome.map {σ α β : Type} (f : α → β) (o : Outcome σ α) : Outcome σ β :=
  ⟨o.state, o.log, o.result.map f⟩

inductive Operation where
  | lookup (keyword : Option String)
  | readOperands (i : Instruction) (tokens : List (Option String))
  | assembleLine (text : Option String)
  | assemble (source : String)
  | load (source : String)
  | append (offer : Offer)
  /-- An instruction is run on tokens, without being stored. -/
  | execute (i : Instruction) (tokens : List (Option String))
  | setPc (value : Int)
  | setRegister (index value : Int)
  | step
  | run (fuel : Nat)
  /-- A line of a session, whose run may take `fuel` steps. -/
  | respond (fuel : Nat) (text : Option String)
  | setTracing (enable : Bool)
  | showTrace
  | clearTrace

inductive Answer where
  | nothing
  | text (s : String)
  | instruction (i : Instruction)
  | values (vs : List Int)
  | slot (s : Slot)
  | statements (ss : List Statement)

namespace Operation

/-- The answer to a question that does not touch the machine. -/
def asked {α : Type} (m : Machine) (r : Except Diagnostic α) (f : α → Answer) :
    Outcome Machine Answer :=
  ⟨m, [], (r.mapError .rejected).map f⟩

theorem asked_eq_error {α : Type} {m : Machine} {r : Except Diagnostic α} {f : α → Answer}
    {e : Failure} (h : (asked m r f).result = .error e) : ∃ d, e = .rejected d := by
  cases r with
  | ok a => cases h
  | error d => cases h; exact ⟨d, rfl⟩

def apply (m : Machine) : Operation → Outcome Machine Answer
  | lookup keyword => asked m (m.language.lookup keyword) .instruction
  | readOperands i tokens => asked m (i.readOperands tokens) .values
  | assembleLine text => asked m (m.language.assembleLine text) .slot
  | assemble source =>
    let (result, log) := m.language.assemble source
    ⟨m, log, result.map .statements⟩
  | load source => (m.load source).map fun _ => .nothing
  | append offer => (m.append offer).map fun _ => .nothing
  | execute i tokens => (m.executeDirectly i tokens).map fun _ => .nothing
  | setPc value => .done (m.setPc value) .nothing
  | setRegister index value =>
    match m.setRegister index value with
    | .ok m' => .done m' .nothing
    | .error f => .faulty m f
  | step => m.step.map fun _ => .nothing
  | run fuel => (m.run fuel).map fun _ => .nothing
  | respond fuel text => (Repl.respond fuel m text).map .text
  | setTracing enable => .done (m.setTracing enable) .nothing
  | showTrace => .done m (.text m.traceText)
  | clearTrace => .done m.clearTrace .nothing

/-- The operation ends with a diagnostic, or answers with the text of one. -/
def Refused (m : Machine) (op : Operation) : Prop :=
  (∃ d, (op.apply m).result = .error (.rejected d)) ∨
    ∃ s, (op.apply m).result = .ok (.text ("ERROR: " ++ s))

end Operation

/-! ## Failures of execution -/

/-- Nothing but a fault can end this outcome early. -/
def Outcome.OnlyFaults {σ α : Type} (o : Outcome σ α) : Prop :=
  ∀ d, o.result ≠ .error (.rejected d)

namespace Outcome

variable {σ α β : Type}

theorem onlyFaults_done (s : σ) (a : α) : (done s a).OnlyFaults := by
  intro d h
  cases h

theorem onlyFaults_faulty (s : σ) (f : Fault) : (faulty s f : Outcome σ α).OnlyFaults := by
  intro d h
  cases h

theorem onlyFaults_ofFaulty (s : σ) (r : Except Fault α) : (ofFaulty s r).OnlyFaults := by
  cases r with
  | ok a => exact onlyFaults_done s a
  | error f => exact onlyFaults_faulty s f

theorem OnlyFaults.andThen {o : Outcome σ α} {f : α → σ → Outcome σ β} (ho : o.OnlyFaults)
    (hf : ∀ a s, (f a s).OnlyFaults) : (o.andThen f).OnlyFaults := by
  intro d h
  unfold Outcome.andThen at h
  split at h
  · next e he =>
    cases h
    exact ho d he
  · next a ha => exact hf a o.state d h

theorem result_andThen_eq_ok {o : Outcome σ α} {f : α → σ → Outcome σ β} {b : β}
    (h : (o.andThen f).result = .ok b) : ∃ a, o.result = .ok a ∧ (f a o.state).result = .ok b := by
  unfold Outcome.andThen at h
  split at h
  · cases h
  · next a ha => exact ⟨a, ha, h⟩

theorem result_ofFaulty_eq_ok {s : σ} {r : Except Fault α} {a : α}
    (h : (ofFaulty s r).result = .ok a) : r = .ok a := by
  cases r with
  | ok b => cases h; rfl
  | error f => cases h

theorem result_ofFaulty_eq_error {s : σ} {r : Except Fault α} {e : Failure}
    (h : (ofFaulty s r).result = .error e) : ∃ f, r = .error f ∧ e = .fault f := by
  cases r with
  | ok a => cases h
  | error f => cases h; exact ⟨f, rfl, rfl⟩

theorem result_andThen_eq_error {o : Outcome σ α} {f : α → σ → Outcome σ β} {e : Failure}
    (h : (o.andThen f).result = .error e) :
    o.result = .error e ∨ ∃ a, o.result = .ok a ∧ (f a o.state).result = .error e := by
  unfold Outcome.andThen at h
  split at h
  · next e' he =>
    cases h
    exact .inl he
  · next a ha => exact .inr ⟨a, ha, h⟩

theorem state_andThen {o : Outcome σ α} {f : α → σ → Outcome σ β} (h : ∀ a s, (f a s).state = s) :
    (o.andThen f).state = o.state := by
  unfold Outcome.andThen
  split
  · rfl
  · exact h _ _

theorem result_map_eq_error {o : Outcome σ α} {f : α → β} {e : Failure} :
    (o.map f).result = .error e ↔ o.result = .error e := by
  unfold map
  cases o.result <;> simp [Except.map]

theorem onlyFaults_map {o : Outcome σ α} {f : α → β} (h : o.OnlyFaults) : (o.map f).OnlyFaults :=
  fun d hd => h d (result_map_eq_error.mp hd)

end Outcome

namespace Machine

theorem onlyFaults_step (m : Machine) : m.step.OnlyFaults := by
  unfold step
  split
  · exact Outcome.onlyFaults_done _ _
  · exact Outcome.onlyFaults_faulty _ _
  · split
    · exact Outcome.onlyFaults_faulty _ _
    · unfold report
      split
      · exact Outcome.onlyFaults_faulty _ _
      · split
        · intro d h
          cases h
        · exact Outcome.onlyFaults_faulty _ _

theorem onlyFaults_run (fuel : Nat) (m : Machine) : (m.run fuel).OnlyFaults := by
  induction fuel generalizing m with
  | zero =>
    unfold run
    split
    · exact Outcome.onlyFaults_done _ _
    · exact Outcome.onlyFaults_faulty _ _
  | succ fuel ih =>
    unfold run
    split
    · exact Outcome.onlyFaults_done _ _
    · exact m.onlyFaults_step.andThen fun _ m' => ih m'

theorem onlyFaults_append (m : Machine) (offer : Offer) : (m.append offer).OnlyFaults := by
  intro d h
  cases offer <;> cases h

end Machine

/-! ## Register summaries and help texts -/

theorem Registers.head?_text (registers : List Int) :
    (text registers).toList.head? ≠ some 'E' := by
  cases registers with
  | nil => decide
  | cons v vs =>
    have hne : "[" ++ Decimal.text v ++ "]" ≠ "" := by simp
    rw [text, List.map_cons, Text.head?_joined _ _ hne]
    simp

theorem Machine.head?_summary {m : Machine} {s : String} (h : m.summary = .ok s) :
    s.toList.head? ≠ some 'E' := by
  unfold summary Registers.summary at h
  split at h
  · cases h
    exact Registers.head?_text _
  · cases h

theorem Machine.summary_eq_error {m : Machine} {f : Fault} (h : m.summary = .error f) :
    f = .tooManyDigits := by
  unfold summary Registers.summary at h
  split at h <;> cases h
  rfl

theorem mapM_eq_error {ε α β : Type} {f : α → Except ε β} {xs : List α} {e : ε}
    (h : xs.mapM f = .error e) : ∃ x ∈ xs, f x = .error e := by
  induction xs with
  | nil => cases h
  | cons x xs ih =>
    rw [List.mapM_cons] at h
    rcases bind_eq_error_iff.mp h with hx | ⟨y, -, h⟩
    · exact ⟨x, List.mem_cons_self, hx⟩
    · rcases bind_eq_error_iff.mp h with hxs | ⟨ys, -, h⟩
      · obtain ⟨z, hz, he⟩ := ih hxs
        exact ⟨z, List.mem_cons_of_mem _ hz, he⟩
      · cases h

theorem Decimal.write_eq_error {v : Int} {f : Fault} (h : write v = .error f) :
    f = .tooManyDigits := by
  unfold write at h
  split at h <;> cases h
  rfl

theorem Operand.describe_eq_error {o : Operand} {f : Fault} (h : o.describe = .error f) :
    f = .tooManyDigits := by
  rcases bind_eq_error_iff.mp h with htype | ⟨_, -, h⟩
  · rcases bind_eq_error_iff.mp htype with hmin | ⟨_, -, htype⟩
    · exact Decimal.write_eq_error hmin
    · rcases bind_eq_error_iff.mp htype with hmax | ⟨_, -, htype⟩
      · exact Decimal.write_eq_error hmax
      · cases htype
  · cases h

theorem Instruction.help_eq_error {i : Instruction} {f : Fault} (h : i.help = .error f) :
    f = .tooManyDigits := by
  rcases bind_eq_error_iff.mp h with hoperands | ⟨_, -, h⟩
  · obtain ⟨o, -, ho⟩ := mapM_eq_error hoperands
    exact Operand.describe_eq_error ho
  · cases h

namespace Repl

/-- Help fails only if a bound of an operand is too long to write. -/
theorem help_eq_error {m : Machine} {f : Fault} (h : help m = .error f) : f = .tooManyDigits := by
  rcases bind_eq_error_iff.mp h with hsections | ⟨_, -, h⟩
  · obtain ⟨i, -, hi⟩ := mapM_eq_error hsections
    exact Instruction.help_eq_error hi
  · cases h

theorem head?_help {m : Machine} {s : String} (h : help m = .ok s) : s.toList.head? ≠ some 'E' := by
  obtain ⟨sections, -, h⟩ := bind_eq_ok_iff.mp h
  cases h
  have hne : "I am running on a " ++ Decimal.text Machine.wordBits ++
      "-bit virtual machine. Instructions:" ≠ "" := by simp
  rw [Text.head?_joined _ _ hne]
  simp

/-! ## Lines of a session -/

/-- The statement that a session makes of a line and runs. -/
def taken (m : Machine) (text : Option String) : Option Statement :=
  if (Line.scan m.language.mark (text.getD "")).keyword = some helpKeyword then none
  else (m.language.assembleLine text).toOption.join

/-- A line is answered by a text that is no error and changes nothing, or it is rejected, or its
statement is stored and run. -/
theorem respond_cases (fuel : Nat) (m : Machine) (text : Option String) :
    (∃ r, taken m text = none ∧ respond fuel m text = .ofFaulty m r ∧
        (∀ s, r = .ok s → s.toList.head? ≠ some 'E') ∧ ∀ f, r = .error f → f = .tooManyDigits) ∨
      (∃ d, taken m text = none ∧ m.language.assembleLine text = .error d ∧
        respond fuel m text = ⟨m, [.lineRejected text d], .ok (errorText d)⟩) ∨
      ∃ s, taken m text = some s ∧ m.language.assembleLine text = .ok (some s) ∧
        respond fuel m text =
          ((m.append (.sequence [some s])).andThen fun _ m' => m'.run fuel).andThen fun _ m' =>
            .ofFaulty m' m'.summary := by
  by_cases hhelp : (Line.scan m.language.mark (text.getD "")).keyword = some helpKeyword
  · refine .inl ⟨help m, ?_, ?_, fun s => head?_help, fun f => help_eq_error⟩
    · rw [taken, if_pos hhelp]
    · rw [respond, if_pos hhelp]
  · rw [taken, if_neg hhelp, respond, if_neg hhelp]
    rcases hslot : m.language.assembleLine text with d | _ | s
    · exact .inr (.inl ⟨d, rfl, rfl, rfl⟩)
    · exact .inl ⟨m.summary, rfl, rfl, fun s => Machine.head?_summary,
        fun f => Machine.summary_eq_error⟩
    · exact .inr (.inr ⟨s, rfl, rfl, rfl⟩)

/-- The machine after a line: only the statement of the line, if it has one, is stored and run. -/
theorem state_respond (fuel : Nat) (m : Machine) (text : Option String) :
    (respond fuel m text).state =
      (taken m text).elim m fun s => ((m.append (.sequence [some s])).state.run fuel).state := by
  rcases respond_cases fuel m text with ⟨r, htaken, hr, -, -⟩ | ⟨d, htaken, -, hr⟩ |
    ⟨s, htaken, -, hr⟩
  · rw [hr, htaken, Outcome.state_ofFaulty]
    rfl
  · rw [hr, htaken]
    rfl
  · rw [hr, htaken, Outcome.state_andThen fun _ _ => Outcome.state_ofFaulty _ _]
    rfl

/-- A line fails if a number is too long to write, or because the run of its statement fails. -/
theorem respond_eq_error {fuel : Nat} {m : Machine} {text : Option String} {e : Failure}
    (h : (respond fuel m text).result = .error e) :
    e = .fault .tooManyDigits ∨
      ∃ s, taken m text = some s ∧
        ((m.append (.sequence [some s])).state.run fuel).result = .error e := by
  rcases respond_cases fuel m text with ⟨r, -, hr, -, hfault⟩ | ⟨d, -, -, hr⟩ | ⟨s, htaken, -, hr⟩
  · rw [hr] at h
    obtain ⟨f, hf, rfl⟩ := Outcome.result_ofFaulty_eq_error h
    exact .inl (by rw [hfault f hf])
  · rw [hr] at h
    cases h
  · rw [hr] at h
    rcases Outcome.result_andThen_eq_error h with hrun | ⟨_, -, hsummary⟩
    · exact .inr ⟨s, htaken, hrun⟩
    · obtain ⟨f, hf, rfl⟩ := Outcome.result_ofFaulty_eq_error hsummary
      exact .inl (by rw [Machine.summary_eq_error hf])

end Repl

/-! ## Refused operations -/

theorem Machine.state_of_load_error {m : Machine} {source : String} {e : Failure}
    (h : (m.load source).result = .error e) : (m.load source).state = m := by
  unfold load at h ⊢
  split
  · rfl
  · next ss log hassemble =>
    rw [hassemble] at h
    cases h

theorem Machine.state_of_executeDirectly_rejected {m : Machine} {i : Instruction}
    {tokens : List (Option String)} {d : Diagnostic}
    (h : (m.executeDirectly i tokens).result = .error (.rejected d)) :
    (m.executeDirectly i tokens).state = m := by
  unfold executeDirectly at h ⊢
  split
  · rfl
  · next values hread =>
    rw [hread] at h
    exact absurd h (Outcome.onlyFaults_ofFaulty _ _ d)

/-- A session answers a line by an error exactly if the line is rejected, and then does nothing. -/
theorem Repl.respond_of_error_answer {fuel : Nat} {m : Machine} {text : Option String} {s : String}
    (h : (respond fuel m text).result = .ok ("ERROR: " ++ s)) :
    ∃ d, m.language.assembleLine text = .error d ∧
      respond fuel m text = ⟨m, [.lineRejected text d], .ok (errorText d)⟩ := by
  have hhead : ("ERROR: " ++ s).toList.head? = some 'E' := by simp
  rcases respond_cases fuel m text with ⟨r, -, hr, htext, -⟩ | ⟨d, -, hd, hr⟩ | ⟨t, -, -, hr⟩
  · rw [hr] at h
    exact absurd hhead (htext _ (Outcome.result_ofFaulty_eq_ok h))
  · exact ⟨d, hd, hr⟩
  · -- the answer to a statement is a register summary
    rw [hr] at h
    obtain ⟨_, -, hsummary⟩ := Outcome.result_andThen_eq_ok h
    exact absurd hhead (Machine.head?_summary (Outcome.result_ofFaulty_eq_ok hsummary))

theorem Repl.onlyFaults_respond (fuel : Nat) (m : Machine) (text : Option String) :
    (respond fuel m text).OnlyFaults := by
  rcases respond_cases fuel m text with ⟨r, -, hr, -⟩ | ⟨d, -, -, hr⟩ | ⟨s, -, -, hr⟩
  · rw [hr]
    exact Outcome.onlyFaults_ofFaulty _ _
  · rw [hr]
    intro e he
    cases he
  · rw [hr]
    have hrun := (m.onlyFaults_append (.sequence [some s])).andThen fun _ m' =>
      m'.onlyFaults_run fuel
    exact hrun.andThen fun _ m' => Outcome.onlyFaults_ofFaulty m' m'.summary

namespace Operation

variable {m : Machine} {op : Operation}

/-- An operation without an answer can only be refused by ending with a diagnostic. -/
theorem Refused.rejected {o : Outcome Machine Unit} (h : op.Refused m)
    (hop : op.apply m = o.map fun _ => .nothing) : ∃ d, o.result = .error (.rejected d) := by
  rcases h with ⟨d, hd⟩ | ⟨s, hs⟩
  · rw [hop] at hd
    exact ⟨d, Outcome.result_map_eq_error.mp hd⟩
  · rw [hop, Outcome.map] at hs
    cases hresult : o.result with
    | ok a => simp [hresult, Except.map] at hs
    | error e => simp [hresult, Except.map] at hs

theorem not_refused {o : Outcome Machine Unit} (ho : o.OnlyFaults)
    (hop : op.apply m = o.map fun _ => .nothing) : ¬ op.Refused m := by
  intro h
  obtain ⟨d, hd⟩ := h.rejected hop
  exact ho d hd

theorem apply_setRegister (m : Machine) (index value : Int) :
    (setRegister index value).apply m =
      (match m.setRegister index value with
        | .ok m' => Outcome.done m' ()
        | .error f => .faulty m f).map fun _ => .nothing := by
  unfold apply
  dsimp only
  split <;> rfl

theorem not_refused_setRegister (m : Machine) (index value : Int) :
    ¬ (setRegister index value).Refused m := by
  refine not_refused ?_ (apply_setRegister m index value)
  split
  · exact Outcome.onlyFaults_done _ _
  · exact Outcome.onlyFaults_faulty _ _

theorem Refused.respond {fuel : Nat} {text : Option String} (h : (respond fuel text).Refused m) :
    ∃ d, m.language.assembleLine text = .error d ∧
      Repl.respond fuel m text = ⟨m, [.lineRejected text d], .ok (Repl.errorText d)⟩ := by
  rcases h with ⟨d, hd⟩ | ⟨s, hs⟩
  · exact absurd hd (Outcome.onlyFaults_map (Repl.onlyFaults_respond fuel m text) d)
  · apply Repl.respond_of_error_answer (s := s)
    cases hresult : (Repl.respond fuel m text).result with
    | ok answer => simpa [apply, Outcome.map, hresult, Except.map] using hs
    | error e => simp [apply, Outcome.map, hresult, Except.map] at hs

/-- An operation that is refused leaves the machine as it was. It is not an execution, and if it is
a line of a session, then the line was rejected by assembly. -/
theorem state_of_refused (m : Machine) (op : Operation) (h : op.Refused m) :
    (op.apply m).state = m ∧ op ≠ .step ∧ (∀ fuel, op ≠ .run fuel) ∧
      ∀ fuel text, op = .respond fuel text →
        ∃ d, m.language.assembleLine text = .error d ∧
          (op.apply m).result = .ok (.text (Repl.errorText d)) := by
  cases op with
  | lookup | readOperands | assembleLine | assemble | showTrace => exact ⟨rfl, by simp⟩
  | load source =>
    obtain ⟨d, hd⟩ := h.rejected rfl
    exact ⟨Machine.state_of_load_error hd, by simp⟩
  | execute i tokens =>
    obtain ⟨d, hd⟩ := h.rejected rfl
    exact ⟨Machine.state_of_executeDirectly_rejected hd, by simp⟩
  | append offer => exact absurd h (not_refused (m.onlyFaults_append offer) rfl)
  | setPc value => exact absurd h (not_refused (Outcome.onlyFaults_done (m.setPc value) ()) rfl)
  | setRegister index value => exact absurd h (not_refused_setRegister m index value)
  | step => exact absurd h (not_refused m.onlyFaults_step rfl)
  | run fuel => exact absurd h (not_refused (m.onlyFaults_run fuel) rfl)
  | respond fuel text =>
    obtain ⟨d, hd, hrespond⟩ := h.respond
    refine ⟨?_, by simp, by simp, ?_⟩
    · simp only [apply, Outcome.map, hrespond]
    · rintro _ _ ⟨⟩
      refine ⟨d, hd, ?_⟩
      simp only [apply, Outcome.map, hrespond, Except.map]
  | setTracing enable =>
    exact absurd h (not_refused (Outcome.onlyFaults_done (m.setTracing enable) ()) rfl)
  | clearTrace => exact absurd h (not_refused (Outcome.onlyFaults_done m.clearTrace ()) rfl)

/-- A text whose last line has one operand that is too large, offered to a machine that knows a
jump. The lines in front of it and its first operand are fine. -/
theorem state_of_refused_third_line :
    ∃ (jump : Instruction) (m : Machine),
      jump.routine = .custom [.setPc (.operand 0), .setRegister (.literal (-1)) (.operand 1)] ∧
      m.language.instructions = [jump, .add] ∧ m.registers = [5, -3, 8] ∧ m.pc = -4 ∧
      ((load "jump 0 1\n# fine\nJUMP 3 70000").apply m).result =
        .error (.rejected ⟨.inputRange, "Input outside valid range", 3, "JUMP 3 70000"⟩) ∧
      ((load "jump 0 1\n# fine\nJUMP 3 70000").apply m).state = m := by
  have hrejected : ((load "jump 0 1\n# fine\nJUMP 3 70000").apply
      ⟨[5, -3, 8], [some ⟨none, [], some "# old", some "old"⟩], -4,
        ⟨[⟨"JUMP", [⟨"to", .word⟩, ⟨"mark", .word⟩],
          .custom [.setPc (.operand 0), .setRegister (.literal (-1)) (.operand 1)], ""⟩, .add],
          commentMark⟩, true, [⟨0, "# old", [5, -3, 8]⟩]⟩).result =
      .error (.rejected ⟨.inputRange, "Input outside valid range", 3, "JUMP 3 70000"⟩) := rfl
  exact ⟨_, _, rfl, rfl, rfl, rfl, hrejected, (state_of_refused _ _ (.inl ⟨_, hrejected⟩)).1⟩

end Operation

end RegisterMachine
