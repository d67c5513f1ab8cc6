import RegisterMachine.Command.Usage

/-!
# Reading the command line

Arguments are taken from left to right. A request for help or for the version ends the reading at
once, and so does an error; arguments that fit nowhere are collected and reported at the end.

* `Gathered`: what the arguments of one grammar say.
* `gather`: reads the arguments of one grammar.
* `Request`: what a whole command line asks for, `Request.parse` reads one.
-/

namespace RegisterMachine.Command

/-- Reading ends before a request is complete, with these texts and this exit code. -/
structure Stop where
  exitCode : Int
  stdout : String
  stderr : String
deriving DecidableEq, Repr

namespace Stop

def help (g : Grammar) : Stop := ⟨0, g.help, ""⟩

def version : Stop := ⟨0, versionLine ++ "\n", ""⟩

def error (g : Grammar) (message : String) : Stop :=
  ⟨2, "", g.usage ++ g.prog ++ ": error: " ++ message ++ "\n"⟩

def argument (g : Grammar) (title message : String) : Stop :=
  error g ("argument " ++ title ++ ": " ++ message)

end Stop

structure Gathered where
  verbose : Nat
  logFile : Option String
  trace : Bool
  input : Option String
  /-- A command and the arguments after it. -/
  command : Option (String × List String)
  /-- The arguments that fit nowhere. -/
  extras : List String
deriving DecidableEq, Repr

namespace Gathered

def nothing : Gathered := ⟨0, none, false, none, none, []⟩

def addExtras (a : Gathered) (args : List String) : Gathered :=
  { a with extras := a.extras ++ args }

def turnOn (g : Grammar) (a : Gathered) : Switch → Except Stop Gathered
  | .help => .error (.help g)
  | .version => .error .version
  | .verbose => .ok { a with verbose := a.verbose + 1 }
  | .trace => .ok { a with trace := true }
  | .logFile => .ok a

def turnOnAll (g : Grammar) (a : Gathered) : List Switch → Except Stop Gathered
  | [] => .ok a
  | s :: ss => do (← a.turnOn g s).turnOnAll g ss

end Gathered

/-- A value that a switch has no use for. -/
def ignoredValue (g : Grammar) (s : Switch) (value : List Char) : Stop :=
  .argument g s.title ("ignored explicit argument " ++ Text.quoted (String.ofList value))

/-- Reads the letters after a short switch as further short switches. Every letter has to be one,
otherwise it and what follows is a value that the switch before it has no use for. -/
def cluster (g : Grammar) (s : Switch) : List Char → Except Stop (List Switch)
  | [] => .ok [s]
  | c :: cs =>
    match g.spelled? ['-', c] with
    | none => .error (ignoredValue g s (c :: cs))
    | some s' => return s :: (← cluster g s' cs)

/-- Takes a switch without value. What is attached to a short one, with or without an equals sign,
is a cluster; a cluster with an error in it turns nothing on. -/
def Gathered.takeFlag (g : Grammar) (a : Gathered) (s : Switch) (spelling : List Char) :
    Option (List Char) → Except Stop Gathered
  | none => a.turnOn g s
  | some text =>
    if spelling.take 2 == ['-', '-'] || text.isEmpty then .error (ignoredValue g s text)
    else do a.turnOnAll g (← cluster g s text)

/-- The value attached to a switch; two dashes are no value. -/
def attachedValue (text : List Char) : Option String :=
  if text = ['-', '-'] then none else some (String.ofList text)

/-- Reads marked arguments; the positional argument is the one still due. A divider next to an
input belongs to it. -/
def gather (g : Grammar) : Gathered → Positional → List (String × Mark) → Except Stop Gathered
  | a, _, [] => .ok a
  | a, .nothing, (arg, .plain) :: rest => gather g (a.addExtras [arg]) .nothing rest
  | a, .nothing, (arg, .divider) :: rest => .ok (a.addExtras (arg :: rest.map (·.1)))
  | a, .command, (arg, .plain) :: rest => .ok { a with command := some (arg, rest.map (·.1)) }
  | a, .command, [(arg, .divider)] => .ok (a.addExtras [arg])
  | a, .command, (arg, .divider) :: rest => .ok { a with command := some (arg, rest.map (·.1)) }
  | a, .input, (arg, .plain) :: (_, .divider) :: rest =>
    gather g { a with input := some arg } .nothing rest
  | a, .input, (arg, .plain) :: rest => gather g { a with input := some arg } .nothing rest
  | a, .input, [(arg, .divider)] => .ok (a.addExtras [arg])
  | a, .input, (_, .divider) :: (arg, _) :: rest =>
    gather g { a with input := some arg } .nothing rest
  | a, due, (arg, .unknown) :: rest => gather g (a.addExtras [arg]) due rest
  | a, due, (_, .switch .logFile _ (some text)) :: rest =>
    gather g { a with logFile := attachedValue text } due rest
  | a, due, (_, .switch .logFile _ none) :: (value, .plain) :: rest =>
    gather g { a with logFile := some value } due rest
  | _, _, (_, .switch .logFile _ none) :: _ =>
    .error (.argument g Switch.logFile.title "expected one argument")
  | a, due, (_, .switch s spelling attached) :: rest => do
    gather g (← a.takeFlag g s spelling attached) due rest

def Grammar.read (g : Grammar) (args : List String) : Except Stop Gathered :=
  match g.classify args with
  | .error message => .error (.error g message)
  | .ok marked => gather g .nothing g.positional marked

/-! ## Requests -/

inductive Task where
  | run (input : String) (trace : Bool)
  | repl
  | help
deriving DecidableEq, Repr

/-- What a command line asks for. -/
inductive Request where
  /-- No command was given. -/
  | overview
  | serve (verbose : Nat) (logFile : Option String) (task : Task)
deriving DecidableEq, Repr

/-- The task of a command and the arguments it leaves over. -/
def Task.parse (name : String) (args : List String) : Except Stop (Task × List String) :=
  if name = "run" then do
    let a ← Grammar.run.read args
    match a.input with
    | none =>
      .error (.error .run "the following arguments are required: input")
    | some input => return (.run input a.trace, a.extras)
  else if name = "repl" then do
    let a ← (Grammar.bare name).read args
    return (.repl, a.extras)
  else if name = "help" then do
    let a ← (Grammar.bare name).read args
    return (.help, a.extras)
  else
    .error (.argument .top "command"
      ("invalid choice: " ++ Text.quoted name ++ " (choose from " ++
        Text.joined ", " (commandNames.map Text.quoted) ++ ")"))

def checkExtras (extras : List String) : Except Stop Unit :=
  if extras.isEmpty then .ok ()
  else .error (.error .top ("unrecognized arguments: " ++ Text.joined " " extras))

def Request.parse (args : List String) : Except Stop Request := do
  let a ← Grammar.top.read args
  match a.command with
  | none =>
    checkExtras a.extras
    return .overview
  | some (name, rest) =>
    let (task, extras) ← Task.parse name rest
    checkExtras (a.extras ++ extras)
    return .serve a.verbose a.logFile task

end RegisterMachine.Command
