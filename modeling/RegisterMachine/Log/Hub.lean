import RegisterMachine.Fault
import RegisterMachine.Files.Tree

/-!
# Loggers and handlers

Loggers have dotted names and form a hierarchy below the root logger. A record goes to the handlers
of its logger and of all loggers above it, as far as their levels permit; a logger without a level
of its own takes that of the nearest logger above which has one. Loggers are kept in the order in
which they were entered.

* `Logger`, `Handler`: a logger with the places its records go to.
* `Hub`: all loggers, what the console has shown, and the files.
* `Hub.emit`: one record; `Hub.submit` for any level.
* `Hub.setup`: gives a logger its handlers, once.
-/

namespace RegisterMachine.Log

inductive Sink where
  | console
  | file (place : Files.Place)
deriving DecidableEq, Repr

/-- Takes the records of at least its level. -/
structure Handler where
  sink : Sink
  level : Int
deriving DecidableEq, Repr

structure Logger where
  name : String
  /-- The level, if the logger has one of its own. -/
  level : Option Int
  handlers : List Handler
deriving DecidableEq, Repr

structure Hub where
  root : Logger
  loggers : List Logger
  console : List Record
  tree : Files.Tree
  stamp : Stamp

namespace Hub

/-- The name of the root logger, which the empty name stands for too. -/
def rootName : String := "root"

def isRoot (name : String) : Bool := name.isEmpty || name == rootName

/-- The stamp of sessions that keep no time. -/
def timeless : Stamp := ⟨"1970-01-01 00:00:00", "log:0"⟩

/-- No logger has been set up. -/
def fresh (tree : Files.Tree) : Hub where
  root := ⟨rootName, some Level.warning, []⟩
  loggers := []
  console := []
  tree := tree
  stamp := timeless

/-! ## The hierarchy -/

def find? (h : Hub) (name : String) : Option Logger :=
  if isRoot name then some h.root else h.loggers.find? (·.name == name)

/-- Makes sure that the logger `name` exists. -/
def enter (h : Hub) (name : String) : Hub :=
  match h.find? name with
  | some _ => h
  | none => { h with loggers := h.loggers ++ [⟨name, none, []⟩] }

def modify (h : Hub) (name : String) (f : Logger → Logger) : Hub :=
  if isRoot name then { h with root := f h.root }
  else { h with loggers := h.loggers.map fun l => if l.name == name then f l else l }

/-- The fronts of a name before its dots, longest first. The name is given backwards. -/
def fronts : List Char → List (List Char)
  | [] => []
  | '.' :: c :: rest => (c :: rest).reverse :: fronts rest
  | _ :: rest => fronts rest

/-- May the logger `l` stand above the logger `name`? A logger takes its place above those that
exist already, except that one whose name is the beginning of `rootName` leaves them where they
are, directly below the root. -/
def mayAdopt (h : Hub) (l : Logger) (name : String) : Bool :=
  !l.name.toList.isPrefixOf rootName.toList ||
    (h.loggers.takeWhile (·.name != name)).any (·.name == l.name)

/-- The nearest logger above `name`, if it is not the root. -/
def parent? (h : Hub) (name : String) : Option Logger :=
  (fronts name.toList.reverse).findSome? fun front =>
    h.loggers.find? fun l => l.name == String.ofList front && h.mayAdopt l name

/-- The loggers above a name, nearest first, without the root; `depth` bounds their number. -/
def above (h : Hub) : Nat → String → List Logger
  | 0, _ => []
  | depth + 1, name =>
    match h.parent? name with
    | none => []
    | some l => l :: h.above depth l.name

/-- The logger `name` and all above it, ending with the root. -/
def chain (h : Hub) (name : String) : List Logger :=
  if isRoot name then [h.root]
  else (h.loggers.find? (·.name == name)).toList ++ h.above name.length name ++ [h.root]

def effectiveLevel (chain : List Logger) : Int := (chain.findSome? Logger.level).getD 0

/-! ## Records -/

def deliver (r : Record) (h : Hub) (handler : Handler) : Hub :=
  if handler.level ≤ r.level then
    match handler.sink with
    | .console => { h with console := h.console ++ [r] }
    | .file place => { h with tree := h.tree.log place r }
  else h

def takes (h : Hub) (name : String) (level : Int) : Prop :=
  0 < level ∧ effectiveLevel (h.chain name) ≤ level

instance (h : Hub) (name : String) (level : Int) : Decidable (h.takes name level) :=
  inferInstanceAs (Decidable (_ ∧ _))

def emit (h : Hub) (name : String) (level : Int) (message : String) : Hub :=
  let h := h.enter name
  if h.takes name level then
    let shown := if isRoot name then rootName else name
    ((h.chain name).flatMap Logger.handlers).foldl (deliver ⟨level, shown, message⟩) h
  else h

/-- Logs a message of any level. A level that is taken has to have a name that can be written. -/
def submit (h : Hub) (name : String) (level : Int) (message : String) : Hub × Except Fault Unit :=
  if (h.enter name).takes name level ∧ ¬ Decimal.Fits level then
    (h.enter name, .error .tooManyDigits)
  else (h.emit name level message, .ok ())

def emitRecord (h : Hub) (r : Record) : Hub := h.emit r.logger r.level r.message

/-! ## Setting up -/

/-- The logger above all loggers of this library. -/
def libraryLogger : String := "asmvm"

inductive SetupError where
  | path (e : Files.PathError)
  | fault (f : Fault)
deriving DecidableEq, Repr

def addHandler (h : Hub) (name : String) (handler : Handler) : Hub :=
  h.modify name fun l => { l with handlers := l.handlers ++ [handler] }

/-- Opens a log file, with its directories, and attaches it to a logger. -/
def attachFile (h : Hub) (name : String) (path : Files.Path) :
    Hub × Except Files.PathError Unit :=
  match h.tree.makeDirectories path.parent with
  | (tree, .error e) => ({ h with tree := tree }, .error e)
  | (tree, .ok ()) =>
    match tree.openLog path with
    | .error e => ({ h with tree := tree }, .error e)
    | .ok (tree, place) =>
      let h := { h with tree := tree }.addHandler name ⟨.file place, Level.debug⟩
      (h.emit name Level.info ("Log file: " ++ path.text), .ok ())

/-- Attaches a log file if its path is given and not empty. -/
def attachIfGiven (h : Hub) (name : String) (logFile : Option String) :
    Hub × Except Files.PathError Unit :=
  match logFile.filter (!·.isEmpty) with
  | none => (h, .ok ())
  | some path => h.attachFile name (.ofText path)

/-- Gives the logger `name` a console handler of the given level and, for a nonempty path, a file
handler. A logger that has a handler already stays as it is. If the file cannot be opened, the
console handler remains; if the level cannot be written, both do. -/
def setup (h : Hub) (name : String) (consoleLevel : Int) (logFile : Option String) :
    Hub × Except SetupError Unit :=
  let h := h.enter name
  if ((h.find? name).map fun l => l.handlers.isEmpty) = some true then
    let h := h.modify name fun l => { l with level := some Level.debug }
    let h := h.addHandler name ⟨.console, consoleLevel⟩
    match h.attachIfGiven name logFile with
    | (h, .error e) => (h, .error (.path e))
    | (h, .ok ()) =>
      if Decimal.Fits consoleLevel then
        (h.emit name Level.debug
          ("Logger initialized: " ++ name ++ " (console " ++ Level.name consoleLevel ++ ")"),
          .ok ())
      else (h, .error (.fault .tooManyDigits))
  else (h, .ok ())

end Hub

end RegisterMachine.Log
