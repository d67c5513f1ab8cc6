import Std.Time
import RegisterMachine.Command.Serve

/-!
# The command line program

Connects `Command` with the outside world: standard input and output, source files, the log file
and the clock. Console records go to standard error. Line breaks on standard input are kept.
-/

namespace RegisterMachine.Main

open Command

/-- A log file on disk and the number of entries written to it so far. -/
structure LogFile where
  handle : IO.FS.Handle
  path : Files.Path
  written : Nat

def entries (h : Log.Hub) (path : Files.Path) : List Log.Record :=
  match h.tree.find path.text with
  | .ok (.file f) => f.entries
  | _ => []

def now : IO Log.Stamp := do
  let time ← Std.Time.PlainDateTime.now
  return ⟨time.format "uuuu-MM-dd HH:mm:ss", "session:0"⟩

def consoleLine (r : Log.Record) : String :=
  Text.padRight 8 (Log.Level.name r.level) ++ " " ++ r.message ++ "\n"

/-- The log file, and the hub whose records have been shown and written. -/
structure Progress where
  file : Option LogFile
  hub : Log.Hub

def writeEntries (h : Log.Hub) (p : Progress) : IO Progress := do
  let file ← p.file.mapM fun f => do
    let all := entries h f.path
    let stamp ← now
    for r in all.drop f.written do
      f.handle.putStr (r.line stamp)
    f.handle.flush
    return { f with written := all.length }
  return ⟨file, h⟩

/-- Shows new console records and writes new entries of the log file. -/
def flush (h : Log.Hub) (p : Progress) : IO Progress := do
  IO.eprint (consoleText consoleLine p.hub h)
  writeEntries h p

def openLog (logFile : Option String) : IO (Option LogFile) :=
  (logFile.filter (!·.isEmpty)).mapM fun name => do
    let path := Files.Path.ofText name
    IO.FS.createDirAll path.parent.text
    return ⟨← IO.FS.Handle.mk path.text .append, path, 0⟩

/-- The refusals of the operating system that have a wording of their own. -/
def osError? : IO.Error → Option Files.OsError
  | .noFileOrDirectory .. => some .notFound
  | .inappropriateType _ code _ => some (if code = 21 then .isDirectory else .notDirectory)
  | .invalidArgument _ code _ => if code = 36 then some .nameTooLong else none
  | _ => none

def openInput (input : String) : IO (Except SourceError Text.Input) := do
  if input = "-" then
    return .ok ⟨← (← IO.getStdin).readBinToEnd, .kept⟩
  match ← (IO.FS.readBinFile input).toBaseIO with
  | .ok bytes => return .ok ⟨bytes, .unified⟩
  | .error e =>
    match osError? e with
    | some os => return .error (.ofPath input (.os os))
    | none => return .error (.reported (toString e))

/-- Prints a response; what escapes the program is an error on standard error. -/
def conclude (r : Response) (p : Progress) : IO UInt32 := do
  let _ ← writeEntries r.hub p
  IO.print r.stdout
  IO.eprint (r.standardError consoleLine p.hub)
  match r.result with
  | .ok code => return code.toNat.toUInt32
  | .error (.path (.os e)) => IO.eprintln e.description; return 1
  | .error (.path .nul) => IO.eprintln "embedded null byte"; return 1
  | .error .undecodable => IO.eprintln "the source is not UTF-8"; return 1
  | .error (.failure (.rejected d)) => IO.eprintln d.message; return 1
  | .error (.failure (.fault f)) => IO.eprintln f.message; return 1

def nextLine : IO (Option String) := do
  return (Text.inputLines (← (← IO.getStdin).getLine)).head?

/-- Takes the turns of a session as their lines come in. -/
partial def converse (p : Progress) (m : Machine) : IO UInt32 := do
  IO.print prompt
  (← IO.getStdout).flush
  match ← nextLine with
  | none =>
    IO.print Farewell.exhausted.text
    return 0
  | some line =>
    let here := turn m line
    let p ← flush (logAll p.hub here.log) p
    IO.print here.state
    match here.result with
    | .error e => conclude ⟨.error (.failure e), "", "", p.hub⟩ p
    | .ok none =>
      IO.print Farewell.quit.text
      return 0
    | .ok (some m') => converse p m'

def serveTask (p : Progress) : Task → IO UInt32
  | .run input trace => do conclude (serveInput p.hub input trace (← openInput input)) p
  | .repl => do
    IO.print (printed [banner])
    converse p .standard
  | .help => conclude (serveHelp p.hub) p

end RegisterMachine.Main

open RegisterMachine RegisterMachine.Main RegisterMachine.Command in
def main (args : List String) : IO UInt32 := do
  let directory := Files.Path.ofText (← IO.currentDir).toString
  let fresh := Log.Hub.fresh (.empty directory.parts)
  match Request.parse args with
  | .ok (.serve verbose logFile task) =>
    let file ← RegisterMachine.Main.openLog logFile
    let level := Log.Level.ofVerbosity verbose
    match fresh.setup Log.Hub.libraryLogger level logFile with
    | (h, .ok ()) => RegisterMachine.Main.serveTask (← flush h ⟨file, fresh⟩) task
    | (_, .error _) => conclude (serve args .empty fresh) ⟨file, fresh⟩
  | _ => conclude (serve args .empty fresh) ⟨none, fresh⟩
