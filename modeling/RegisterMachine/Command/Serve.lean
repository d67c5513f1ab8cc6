import RegisterMachine.Command.Arguments
import RegisterMachine.Log.Hub
import RegisterMachine.Program
import RegisterMachine.Repl
import RegisterMachine.Text.Blocks

/-!
# Serving a command line

`serve` answers a whole command line: the exit code, the texts for standard output and standard
error, and the loggers, console records and files afterwards. Sources are UTF-8 without exception.
Every line break in a file counts as a line feed; whether this is so on standard input, its `Input`
says.

* `serveRun`, `serveRepl`: the commands, in terms of what a program in the outer world does with a
  source that it has read (`serveInput`) and with the next line of a session (`turn`).
* `Response.standardError`: what a command prints on standard error, with its console records.
-/

namespace RegisterMachine.Command

/-- What ends the program without an exit code. -/
inductive Escape where
  | path (e : Files.PathError)
  /-- A source that is not UTF-8. -/
  | undecodable
  | failure (e : Failure)
deriving DecidableEq, Repr

def Escape.ofSetup : Log.Hub.SetupError → Escape
  | .path e => .path e
  | .fault f => .failure (.fault f)

structure Response where
  result : Except Escape Int
  stdout : String
  /-- What is printed on standard error, apart from records on the console. -/
  stderr : String
  hub : Log.Hub

/-- What the console has written since `h`, if it writes a record as `render` says. -/
def consoleText (render : Log.Record → String) (h h' : Log.Hub) : String :=
  String.join ((h'.console.drop h.console.length).map render)

/-- All of standard error for a command that started with `h`: its records on the console, and then
the printed text, which no command prints before it has logged everything. -/
def Response.standardError (render : Log.Record → String) (h : Log.Hub) (r : Response) : String :=
  consoleText render h r.hub ++ r.stderr

def logger : String := "asmvm.cli"

def prompt : String := "> "

def quitWords : List String := ["QUIT", "EXIT"]

def banner : String := versionLine ++ ": type HELP for instructions, QUIT to exit."

def dashes : String := String.ofList (List.replicate 40 '-')

def logAll (h : Log.Hub) (events : List Event) : Log.Hub :=
  events.foldl (fun h e => h.emitRecord e.record) h

/-- The lines of a text for output, each with its line feed. -/
def printed (lines : List String) : String := String.join (lines.map (· ++ "\n"))

/-! ## Running a source -/

/-- Why a source could not be had: the user is told, or the program ends. -/
inductive SourceError where
  | reported (message : String)
  | escaped (e : Escape)
deriving DecidableEq, Repr

def openMessage (e : Files.OsError) (path : String) : String :=
  "[Errno " ++ Decimal.text e.number ++ "] " ++ e.description ++ ": " ++ Text.quoted path

/-- The user is told what the operating system refuses. -/
def SourceError.ofPath (input : String) : Files.PathError → SourceError
  | .os e => .reported (openMessage e input)
  | e => .escaped (.path e)

/-- The source named `input`, `-` being standard input. -/
def openInput (h : Log.Hub) (stdin : Text.Input) (input : String) :
    Except SourceError Text.Input :=
  if input = "-" then .ok stdin
  else
    match h.tree.openSource input with
    | .ok file => .ok ⟨file.bytes h.stamp, .unified⟩
    | .error e => .error (.ofPath input e)

def sourceText (source : Except SourceError Text.Input) : Except SourceError String := do
  match (← source).text? with
  | none => .error (.escaped .undecodable)
  | some text => .ok text

def programText (p : Program) (trace : Bool) : String :=
  printed p.output ++ if trace then printed [dashes, p.machine.traceText] else ""

def runSource (h : Log.Hub) (input : String) (trace : Bool) (source : String) : Response :=
  let h := h.emit logger Log.Level.info ("Running " ++ input)
  let ran := Program.runText source trace
  let h := logAll h ran.log
  match ran.result with
  | .error e => ⟨.error (.failure e), "", "", h⟩
  | .ok () =>
    let stdout := programText ran.state trace
    match ran.state.error with
    | none => ⟨.ok 0, stdout, "", h⟩
    | some d => ⟨.ok 1, stdout, input ++ ": " ++ d.message ++ "\n", h⟩

def SourceError.response (h : Log.Hub) : SourceError → Response
  | reported message => ⟨.ok 1, "", "Error: " ++ message ++ "\n", h⟩
  | escaped e => ⟨.error e, "", "", h⟩

/-- Runs what was opened under the name `input`. -/
def serveInput (h : Log.Hub) (input : String) (trace : Bool)
    (source : Except SourceError Text.Input) : Response :=
  match sourceText source with
  | .error e => e.response h
  | .ok text => runSource h input trace text

def serveRun (h : Log.Hub) (stdin : Text.Input) (input : String) (trace : Bool) : Response :=
  serveInput h input trace (openInput h stdin input)

/-! ## Sessions -/

def isQuit (line : String) : Bool := quitWords.contains (Text.upper (Text.trimmed line))

inductive Farewell where
  | quit
  /-- There are no more lines. -/
  | exhausted
deriving DecidableEq, Repr

/-- What is printed after the last prompt. -/
def Farewell.text : Farewell → String
  | quit => ""
  | exhausted => "\n"

/-- One line of a session: what is printed for it, and the machine to go on with unless it is a quit
word. -/
def turn (m : Machine) (line : String) : Outcome String (Option Machine) :=
  if isQuit line then .done "" none
  else
    let answer := Repl.respond (m.count + 1) m line
    match answer.result with
    | .error e => ⟨"", answer.log, .error e⟩
    | .ok text => ⟨text ++ "\n", answer.log, .ok (some answer.state)⟩

/-- Reads lines up to the first quit word and prints the answers; the state is the printed text. -/
def converse (m : Machine) : List String → Outcome String Farewell
  | [] => .done prompt .exhausted
  | line :: rest =>
    let here := turn m line
    match here.result with
    | .error e => ⟨prompt ++ here.state, here.log, .error e⟩
    | .ok none => ⟨prompt ++ here.state, here.log, .ok .quit⟩
    | .ok (some m') =>
      let further := converse m' rest
      ⟨prompt ++ here.state ++ further.state, here.log ++ further.log, further.result⟩

/-- Lines are answered as they arrive, so input that is not UTF-8 ends a session only when a line is
wanted that cannot be had. -/
def serveRepl (h : Log.Hub) (stdin : Text.Input) : Response :=
  let session := converse .standard stdin.lines
  let h := logAll h session.log
  let stdout := printed [banner] ++ session.state
  match session.result with
  | .error e => ⟨.error (.failure e), stdout, "", h⟩
  | .ok .quit => ⟨.ok 0, stdout ++ Farewell.quit.text, "", h⟩
  | .ok .exhausted =>
    if stdin.arrival.complete then ⟨.ok 0, stdout ++ Farewell.exhausted.text, "", h⟩
    else ⟨.error .undecodable, stdout, "", h⟩

def serveHelp (h : Log.Hub) : Response :=
  match Repl.help .standard with
  | .error f => ⟨.error (.failure (.fault f)), "", "", h⟩
  | .ok text => ⟨.ok 0, printed [text], "", h⟩

/-! ## Command lines -/

def serveTask (h : Log.Hub) (stdin : Text.Input) : Task → Response
  | .run input trace => serveRun h stdin input trace
  | .repl => serveRepl h stdin
  | .help => serveHelp h

/-- The answer to the arguments `args`, with `stdin` waiting on standard input. -/
def serve (args : List String) (stdin : Text.Input) (h : Log.Hub) : Response :=
  match Request.parse args with
  | .error stop => ⟨.ok stop.exitCode, stop.stdout, stop.stderr, h⟩
  | .ok .overview => ⟨.ok 0, Grammar.top.help, "", h⟩
  | .ok (.serve verbose logFile task) =>
    match h.setup Log.Hub.libraryLogger (Log.Level.ofVerbosity verbose) logFile with
    | (h, .error e) => ⟨.error (.ofSetup e), "", "", h⟩
    | (h, .ok ()) => serveTask h stdin task

end RegisterMachine.Command
