import RegisterMachine.Command.Arguments
import RegisterMachine.Proofs.Assembly

/-!
# Command lines

What is read from the command lines that the other modules are about: a source to run, with or
without a trace (`parse_run`, `parse_run_trace`), and a command with flags in front of it, which say
how much is logged and where (`parse_flags`).
-/

namespace RegisterMachine.Command

/-! ## Arguments that are no switches -/

/-- No grammar takes the argument for a switch: it is a single dash or does not begin with one. -/
def Plain (arg : String) : Prop := arg = "-" ∨ arg.toList.head? ≠ some '-'

theorem Plain.ne_divider {arg : String} (h : Plain arg) : arg ≠ "--" := by
  rintro rfl
  rcases h with h | h
  · exact absurd h (by decide)
  · exact h rfl

theorem classifyOne_of_plain {arg : String} (h : Plain arg) (g : Grammar) :
    g.classifyOne arg = .ok .plain := by
  rcases h with rfl | h
  · rfl
  · unfold Grammar.classifyOne
    split
    · next hlist => simp [hlist] at h
    · rfl

theorem classify_cons {arg : String} (hne : arg ≠ "--") (g : Grammar) (args : List String) :
    g.classify (arg :: args) = do
      let mark ← g.classifyOne arg
      let rest ← g.classify args
      return (arg, mark) :: rest := by
  rw [Grammar.classify]
  intro h
  exact absurd h hne

theorem classify_cons_of_ok {g : Grammar} {arg : String} {mark : Mark} {args : List String}
    {marks : List (String × Mark)} (hne : arg ≠ "--") (hone : g.classifyOne arg = .ok mark)
    (hrest : g.classify args = .ok marks) :
    g.classify (arg :: args) = .ok ((arg, mark) :: marks) := by
  rw [classify_cons hne, hone, hrest]
  rfl

theorem classify_plain {g : Grammar} {arg : String} {args : List String}
    {marks : List (String × Mark)} (h : Plain arg) (hrest : g.classify args = .ok marks) :
    g.classify (arg :: args) = .ok ((arg, .plain) :: marks) :=
  classify_cons_of_ok h.ne_divider (classifyOne_of_plain h g) hrest

/-- Every argument is marked, and none is changed. -/
theorem map_fst_classify {g : Grammar} {args : List String} {marks : List (String × Mark)}
    (h : g.classify args = .ok marks) : marks.map Prod.fst = args := by
  induction args generalizing marks with
  | nil =>
    cases h
    rfl
  | cons arg args ih =>
    by_cases hdivider : arg = "--"
    · subst hdivider
      rw [Grammar.classify] at h
      cases h
      simp [Function.comp_def]
    · rw [classify_cons hdivider] at h
      obtain ⟨mark, -, h⟩ := bind_eq_ok_iff.mp h
      obtain ⟨rest, hrest, h⟩ := bind_eq_ok_iff.mp h
      cases h
      rw [List.map_cons, ih hrest]

/-! ## Values in the same argument -/

namespace Grammar

theorem splitEquals_of_notMem {cs : List Char} (h : '=' ∉ cs) : splitEquals cs = (cs, none) := by
  have hdrop : cs.dropWhile (· != '=') = [] := by
    rw [List.dropWhile_eq_nil_iff]
    intro c hc
    simpa using fun heq : c = '=' => h (heq ▸ hc)
  rw [splitEquals, hdrop]

theorem splitEquals_append {front : List Char} (h : '=' ∉ front) (value : List Char) :
    splitEquals (front ++ '=' :: value) = (front, some value) := by
  have hfront : ∀ c ∈ front, (c != '=') = true := by
    intro c hc
    simpa using fun heq : c = '=' => h (heq ▸ hc)
  rw [splitEquals, List.dropWhile_append_of_pos hfront, List.takeWhile_append_of_pos hfront]
  simp

theorem equals_notMem_spellings : ∀ p ∈ top.spellings, '=' ∉ p.2 := by decide

theorem spelled?_append_equals (front value : List Char) :
    top.spelled? (front ++ '=' :: value) = none := by
  have hnone : ∀ p ∈ top.spellings, ¬ (p.2 == front ++ '=' :: value) = true := by
    intro p hp heq
    apply equals_notMem_spellings p hp
    rw [beq_iff_eq.mp heq]
    simp
  rw [spelled?, List.find?_eq_none.mpr hnone, Option.map_none]

theorem classifyOne_logFile (path : String) :
    top.classifyOne ("--log-file=" ++ path) =
      .ok (.switch .logFile "--log-file".toList (some path.toList)) := by
  have htext : ("--log-file=" ++ path).toList =
      ['-', '-', 'l', 'o', 'g', '-', 'f', 'i', 'l', 'e'] ++ '=' :: path.toList := by simp
  have hout : top.spelledOut? (['-', '-', 'l', 'o', 'g', '-', 'f', 'i', 'l', 'e'] ++
      '=' :: path.toList) = some (.switch .logFile "--log-file".toList (some path.toList)) := by
    rw [spelledOut?, spelled?_append_equals, splitEquals_append (by decide)]
    rfl
  unfold classifyOne
  rw [htext]
  simp only [List.cons_append] at hout ⊢
  rw [hout]

theorem classifyOne_cluster {arg : String} {n : Nat}
    (h : arg.toList = '-' :: 'v' :: List.replicate (n + 1) 'v') :
    top.classifyOne arg =
      .ok (.switch .verbose "-v".toList (some (List.replicate (n + 1) 'v'))) := by
  have hspellings : top.spellings =
      [(.help, "-h".toList), (.help, "--help".toList), (.version, "--version".toList),
        (.verbose, "-v".toList), (.verbose, "--verbose".toList),
        (.logFile, "--log-file".toList)] := rfl
  have hequals : splitEquals ('-' :: 'v' :: List.replicate (n + 1) 'v') =
      ('-' :: 'v' :: List.replicate (n + 1) 'v', none) := splitEquals_of_notMem (by simp)
  have hspelled : top.spelled? ('-' :: 'v' :: List.replicate (n + 1) 'v') = none := by
    simp [spelled?, hspellings, List.replicate_succ]
  have hcandidates : top.candidates ('-' :: 'v' :: List.replicate (n + 1) 'v') =
      [.switch .verbose "-v".toList (some (List.replicate (n + 1) 'v'))] := by
    simp [candidates, hspellings, List.replicate_succ]
  unfold classifyOne
  rw [h]
  simp only [spelledOut?, hspelled, hequals, hcandidates]

end Grammar

/-! ## Flags -/

/-- What may stand in front of a command to say how much is logged, and where. -/
inductive Flag where
  /-- `-v`, with so many further `v` in the same argument. -/
  | verbose (more : Nat)
  /-- A log file, in one argument with its switch. -/
  | logFile (path : String)
deriving DecidableEq, Repr

namespace Flag

def text : Flag → String
  | verbose more => "-v" ++ String.ofList (List.replicate more 'v')
  | logFile path => "--log-file=" ++ path

def mark : Flag → Mark
  | verbose 0 => .switch .verbose "-v".toList none
  | verbose (more + 1) => .switch .verbose "-v".toList (some (List.replicate (more + 1) 'v'))
  | logFile path => .switch .logFile "--log-file".toList (some path.toList)

def add (a : Gathered) : Flag → Gathered
  | verbose more => { a with verbose := a.verbose + (more + 1) }
  | logFile path => { a with logFile := attachedValue path.toList }

theorem text_ne_divider (f : Flag) : f.text ≠ "--" := by
  intro h
  have hlist := congrArg String.toList h
  cases f <;> simp [text] at hlist

theorem classifyOne_text (f : Flag) : Grammar.top.classifyOne f.text = .ok f.mark := by
  cases f with
  | verbose more =>
    cases more with
    | zero => rfl
    | succ more => exact Grammar.classifyOne_cluster (by simp [text])
  | logFile path => exact Grammar.classifyOne_logFile path

theorem classify_map_text {args : List String} {marks : List (String × Mark)}
    (h : Grammar.top.classify args = .ok marks) (flags : List Flag) :
    Grammar.top.classify (flags.map text ++ args) =
      .ok (flags.map (fun f => (f.text, f.mark)) ++ marks) := by
  induction flags with
  | nil => exact h
  | cons f flags ih => exact classify_cons_of_ok f.text_ne_divider f.classifyOne_text ih

theorem turnOnAll_replicate (a : Gathered) (n : Nat) :
    a.turnOnAll .top (List.replicate n .verbose) = .ok { a with verbose := a.verbose + n } := by
  induction n generalizing a with
  | zero => rfl
  | succ n ih =>
    rw [List.replicate_succ, Gathered.turnOnAll]
    refine (ih _).trans ?_
    simp only [Nat.add_assoc, Nat.add_comm 1 n]

theorem cluster_replicate (n : Nat) :
    cluster .top .verbose (List.replicate n 'v') = .ok (List.replicate (n + 1) .verbose) := by
  induction n with
  | zero => rfl
  | succ n ih =>
    have hletter : Grammar.top.spelled? ['-', 'v'] = some .verbose := rfl
    rw [List.replicate_succ, cluster, hletter]
    simp only [ih]
    rfl

theorem takeFlag_cluster (a : Gathered) (n : Nat) :
    a.takeFlag .top .verbose "-v".toList (some (List.replicate (n + 1) 'v')) =
      .ok { a with verbose := a.verbose + (n + 1 + 1) } := by
  have hcluster : ("-v".toList.take 2 == ['-', '-'] || (List.replicate (n + 1) 'v').isEmpty) =
      false := by simp
  rw [Gathered.takeFlag, hcluster, if_neg Bool.false_ne_true, cluster_replicate]
  exact turnOnAll_replicate a (n + 1 + 1)

theorem gather_mark (f : Flag) (a : Gathered) (rest : List (String × Mark)) :
    gather .top a .command ((f.text, f.mark) :: rest) = gather .top (f.add a) .command rest := by
  cases f with
  | verbose more =>
    cases more with
    | zero =>
      rw [mark, gather]
      · rfl
      all_goals simp
    | succ more =>
      rw [mark, gather]
      · rw [takeFlag_cluster]
        rfl
      all_goals simp
  | logFile path =>
    rw [mark, gather]
    rfl

theorem gather_map_mark (flags : List Flag) (a : Gathered) (rest : List (String × Mark)) :
    gather .top a .command (flags.map (fun f => (f.text, f.mark)) ++ rest) =
      gather .top (flags.foldl add a) .command rest := by
  induction flags generalizing a with
  | nil => rfl
  | cons f flags ih =>
    rw [List.map_cons, List.cons_append, gather_mark, ih, List.foldl_cons]

theorem extras_foldl_add (flags : List Flag) (a : Gathered) :
    (flags.foldl add a).extras = a.extras := by
  induction flags generalizing a with
  | nil => rfl
  | cons f flags ih =>
    rw [List.foldl_cons, ih]
    cases f <;> rfl

def verbosity (flags : List Flag) : Nat := (flags.foldl add .nothing).verbose

/-- The log file that flags ask for, the last one if there are several. -/
def logFile? (flags : List Flag) : Option String := (flags.foldl add .nothing).logFile

theorem mem_of_logFile_foldl_add {flags : List Flag} {a : Gathered} {path : String}
    (h : (flags.foldl add a).logFile = some path) :
    logFile path ∈ flags ∨ a.logFile = some path := by
  induction flags generalizing a with
  | nil => exact .inr h
  | cons f flags ih =>
    rcases ih h with hmem | hadd
    · exact .inl (List.mem_cons_of_mem _ hmem)
    · cases f with
      | verbose more => exact .inr hadd
      | logFile path' =>
        simp only [add, attachedValue, String.ofList_toList] at hadd
        split at hadd
        · cases hadd
        · cases hadd
          exact .inl List.mem_cons_self

theorem mem_of_logFile? {flags : List Flag} {path : String} (h : logFile? flags = some path) :
    logFile path ∈ flags := by
  rcases mem_of_logFile_foldl_add h with hmem | hnone
  · exact hmem
  · cases hnone

end Flag

/-! ## Commands -/

theorem parse_command {name : String} {args : List String} {marks : List (String × Mark)}
    (hname : Plain name) (h : Grammar.top.classify args = .ok marks) (flags : List Flag) :
    Request.parse (flags.map Flag.text ++ name :: args) = do
      let (task, extras) ← Task.parse name args
      checkExtras extras
      return .serve (Flag.verbosity flags) (Flag.logFile? flags) task := by
  have hread : Grammar.top.read (flags.map Flag.text ++ name :: args) =
      .ok { flags.foldl Flag.add .nothing with command := some (name, args) } := by
    rw [Grammar.read, Flag.classify_map_text (classify_plain hname h)]
    refine (Flag.gather_map_mark flags .nothing _).trans ?_
    rw [gather, map_fst_classify h]
  have hextras : (flags.foldl Flag.add .nothing).extras = [] := Flag.extras_foldl_add flags _
  rw [Request.parse, hread]
  simp only [bind, Except.bind, hextras, List.nil_append]
  rfl

theorem plain_of_mem_commandNames {name : String} (h : name ∈ commandNames) : Plain name := by
  have hall : ∀ name ∈ commandNames, name.toList.head? ≠ some '-' := by decide
  exact .inr (hall name h)

/-- The arguments of a command line are all marked before any of them is read. -/
theorem exists_classify_of_parse {name : String} {args : List String} {request : Request}
    (hname : Plain name) (h : Request.parse (name :: args) = .ok request) :
    ∃ marks, Grammar.top.classify args = .ok marks := by
  cases hrest : Grammar.top.classify args with
  | ok marks => exact ⟨marks, rfl⟩
  | error message =>
    rw [Request.parse, Grammar.read, classify_cons hname.ne_divider,
      classifyOne_of_plain hname, hrest] at h
    cases h

/-- Flags in front of a command that is understood without them. -/
theorem parse_flags {name : String} {args : List String} {task : Task}
    (hname : name ∈ commandNames)
    (h : Request.parse (name :: args) = .ok (.serve 0 none task)) (flags : List Flag) :
    Request.parse (flags.map Flag.text ++ name :: args) =
      .ok (.serve (Flag.verbosity flags) (Flag.logFile? flags) task) := by
  have hplain := plain_of_mem_commandNames hname
  obtain ⟨marks, hmarks⟩ := exists_classify_of_parse hplain h
  have hbare := parse_command hplain hmarks []
  rw [List.map_nil, List.nil_append, h] at hbare
  obtain ⟨⟨task', extras⟩, htask, hbare⟩ := bind_eq_ok_iff.mp hbare.symm
  obtain ⟨⟨⟩, hextras, hbare⟩ := bind_eq_ok_iff.mp hbare
  cases hbare
  rw [parse_command hplain hmarks flags, htask]
  simp only [bind, Except.bind, hextras]
  rfl

theorem parse_run_of_read {input : String} {args : List String} {marks : List (String × Mark)}
    {trace : Bool} (hmarks : Grammar.top.classify args = .ok marks)
    (hread : Grammar.run.read args =
      .ok { Gathered.nothing with input := some input, trace := trace }) :
    Request.parse ("run" :: args) = .ok (.serve 0 none (.run input trace)) := by
  have hplain : Plain "run" := .inr (by decide)
  have htask : Task.parse "run" args = .ok (.run input trace, []) := by
    rw [Task.parse, if_pos rfl, hread]
    rfl
  refine (parse_command hplain hmarks []).trans ?_
  rw [htask]
  rfl

section
variable {input : String} (h : Plain input)
include h

theorem parse_run : Request.parse ["run", input] = .ok (.serve 0 none (.run input false)) := by
  have hmarks (g : Grammar) : g.classify [input] = .ok [(input, .plain)] := classify_plain h rfl
  refine parse_run_of_read (hmarks .top) ?_
  rw [Grammar.read, hmarks]
  rfl

theorem parse_run_trace :
    Request.parse ["run", input, "--trace"] = .ok (.serve 0 none (.run input true)) ∧
      Request.parse ["run", "--trace", input] = .ok (.serve 0 none (.run input true)) := by
  have hswitch : Grammar.run.classifyOne "--trace" =
      .ok (.switch .trace "--trace".toList none) := rfl
  have hunknown : Grammar.top.classifyOne "--trace" = .ok .unknown := rfl
  have hlast {g : Grammar} {mark : Mark} (hone : g.classifyOne "--trace" = .ok mark) :
      g.classify [input, "--trace"] = .ok [(input, .plain), ("--trace", mark)] :=
    classify_plain h (classify_cons_of_ok (by decide) hone rfl)
  have hfirst {g : Grammar} {mark : Mark} (hone : g.classifyOne "--trace" = .ok mark) :
      g.classify ["--trace", input] = .ok [("--trace", mark), (input, .plain)] :=
    classify_cons_of_ok (by decide) hone (classify_plain h rfl)
  constructor
  · refine parse_run_of_read (hlast hunknown) ?_
    rw [Grammar.read, hlast hswitch]
    rfl
  · refine parse_run_of_read (hfirst hunknown) ?_
    rw [Grammar.read, hfirst hswitch]
    rfl

end

end RegisterMachine.Command
