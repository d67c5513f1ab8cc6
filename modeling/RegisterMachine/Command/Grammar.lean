import RegisterMachine.Text.Digit
import RegisterMachine.Text.Quoted
import RegisterMachine.Text.Lines

/-!
# Switches on the command line

* `Switch`: the options, with their spellings.
* `Grammar`: what a command accepts: its switches and what may stand between them.
* `Grammar.classify`: is an argument a switch, and which? A long spelling may be shortened as long
  as it stays unique, a value may be attached with `=`, and short switches may be written in one
  cluster.
-/

namespace RegisterMachine.Command

inductive Switch where
  | help
  | version
  | verbose
  /-- The only switch with a value. -/
  | logFile
  | trace
deriving DecidableEq, Repr

namespace Switch

def spellings : Switch → List String
  | help => ["-h", "--help"]
  | version => ["--version"]
  | verbose => ["-v", "--verbose"]
  | logFile => ["--log-file"]
  | trace => ["--trace"]

/-- How a switch is called in error messages. -/
def title (s : Switch) : String := Text.joined "/" s.spellings

end Switch

/-- What may stand between the switches. -/
inductive Positional where
  | nothing
  /-- The name of a source file. -/
  | input
  /-- A command, to which all further arguments belong. -/
  | command
deriving DecidableEq, Repr

structure Grammar where
  prog : String
  switches : List Switch
  positional : Positional
  /-- The line that sums up the grammar. -/
  usage : String
  /-- The full description. -/
  help : String
deriving DecidableEq, Repr

/-- What an argument is taken for. -/
inductive Mark where
  | plain
  /-- After two dashes nothing is a switch. -/
  | divider
  /-- It looks like a switch and is none. -/
  | unknown
  /-- A switch, with what is written into the same argument after its spelling. -/
  | switch (s : Switch) (spelling : List Char) (attached : Option (List Char))
deriving DecidableEq, Repr

def Mark.spelling : Mark → String
  | switch _ spelling _ => String.ofList spelling
  | _ => ""

namespace Grammar

def spellings (g : Grammar) : List (Switch × List Char) :=
  g.switches.flatMap fun s => s.spellings.map fun spelling => (s, spelling.toList)

def spelled? (g : Grammar) (cs : List Char) : Option Switch :=
  (g.spellings.find? (·.2 == cs)).map (·.1)

/-- The text before the first equals sign and, if there is one, the text after it. -/
def splitEquals (cs : List Char) : List Char × Option (List Char) :=
  match cs.dropWhile (· != '=') with
  | [] => (cs, none)
  | _ :: value => (cs.takeWhile (· != '='), some value)

def candidates (g : Grammar) (cs : List Char) : List Mark :=
  match cs with
  | '-' :: '-' :: _ =>
    let (front, value) := splitEquals cs
    (g.spellings.filter fun p => front.isPrefixOf p.2).map fun p => .switch p.1 p.2 value
  | _ =>
    g.spellings.filterMap fun p =>
      if p.2 == cs.take 2 then some (.switch p.1 p.2 (some (cs.drop 2)))
      else if cs.isPrefixOf p.2 then some (.switch p.1 p.2 none)
      else none

/-- The switch an argument spells in full, perhaps with a value. -/
def spelledOut? (g : Grammar) (cs : List Char) : Option Mark :=
  match g.spelled? cs with
  | some s => some (.switch s cs none)
  | none =>
    match splitEquals cs with
    | (front, some value) => (g.spelled? front).map fun s => .switch s front (some value)
    | (_, none) => none

def ambiguous (arg : String) (marks : List Mark) : String :=
  "ambiguous option: " ++ arg ++ " could match " ++
    Text.joined ", " (marks.map Mark.spelling)

/-- What one argument before the divider is taken for; the error is a message. -/
def classifyOne (g : Grammar) (arg : String) : Except String Mark :=
  match arg.toList with
  | '-' :: c :: cs =>
    let all := '-' :: c :: cs
    match g.spelledOut? all with
    | some mark => .ok mark
    | none =>
      match g.candidates all with
      | [mark] => .ok mark
      | [] =>
        if Text.isNegativeNumber arg || all.contains ' ' then .ok .plain else .ok .unknown
      | marks => .error (ambiguous arg marks)
  | _ => .ok .plain

def classify (g : Grammar) : List String → Except String (List (String × Mark))
  | [] => .ok []
  | "--" :: args => .ok (("--", .divider) :: args.map fun a => (a, .plain))
  | arg :: args => do
    let mark ← g.classifyOne arg
    let rest ← g.classify args
    return (arg, mark) :: rest

end Grammar

end RegisterMachine.Command
