import RegisterMachine.Files.Path
import RegisterMachine.Log.Record

/-!
# File trees

The directories and files a command can reach, as a value. A file has the content it started with
and the log entries written to it since.

* `Tree.walk`: follows the components of a path, each through an existing directory.
* `Tree.openSource`: a file to read.
* `Tree.makeDirectories`: a directory with all its missing parents.
* `Tree.openLog`: a file to append to, new if need be.
-/

namespace RegisterMachine.Files

inductive OsError where
  | notFound
  | alreadyExists
  | notDirectory
  | isDirectory
  | nameTooLong
deriving DecidableEq, Repr

namespace OsError

def number : OsError → Nat
  | notFound => 2
  | alreadyExists => 17
  | notDirectory => 20
  | isDirectory => 21
  | nameTooLong => 36

def description : OsError → String
  | notFound => "No such file or directory"
  | alreadyExists => "File exists"
  | notDirectory => "Not a directory"
  | isDirectory => "Is a directory"
  | nameTooLong => "File name too long"

end OsError

inductive PathError where
  | os (e : OsError)
  /-- A path cannot hold the character with code 0. -/
  | nul
deriving DecidableEq, Repr

structure File where
  content : ByteArray
  entries : List Log.Record

inductive Entry where
  | directory
  | file (f : File)

structure Tree where
  /-- The working directory. -/
  home : Place
  entries : List (Place × Entry)

namespace Tree

/-- Nothing but the working directory, the names on the way to it being `home`. -/
def empty (home : List String) : Tree := ⟨⟨home⟩, []⟩

/-- What is at a place. The working directory and those above it are always there. -/
def get? (t : Tree) (p : Place) : Option Entry :=
  if p.isAbove t.home then some .directory
  else (t.entries.find? (·.1 == p)).map (·.2)

/-- Puts an entry at a place, in the stead of what was there. -/
def put (t : Tree) (p : Place) (e : Entry) : Tree :=
  { t with entries := (t.entries.filter (·.1 != p)) ++ [(p, e)] }

/-! ## Following paths -/

/-- The longest name of a file, in bytes. -/
def nameLimit : Nat := 255

/-- A path is shorter than this, in bytes. -/
def pathLimit : Nat := 4096

/-- What is wrong with a path before anything is looked up. -/
def checkText (s : String) : Except PathError Unit :=
  if s.toList.contains '\x00' then .error .nul
  else if s.isEmpty then .error (.os .notFound)
  else if pathLimit ≤ s.utf8ByteSize then .error (.os .nameTooLong)
  else .ok ()

/-- Follows components from a place that exists. Every component but the last has to be a
directory, and so has the last if a slash follows. -/
def walk (t : Tree) (p : Place) : List String → Except PathError Place
  | [] => .ok p
  | c :: cs =>
    match t.get? p with
    | none => .error (.os .notFound)
    | some (.file _) => .error (.os .notDirectory)
    | some .directory =>
      if c = "" ∨ c = "." then t.walk p cs
      else if c = ".." then t.walk p.up cs
      else if nameLimit < c.utf8ByteSize then .error (.os .nameTooLong)
      else
        match t.get? (p.child c) with
        | none => .error (.os .notFound)
        | some _ => t.walk (p.child c) cs

def find (t : Tree) (path : String) : Except PathError Entry := do
  checkText path
  let p ← t.walk (t.home.start (path.toList.head? == some '/')) (Path.components path)
  match t.get? p with
  | some e => .ok e
  | none => .error (.os .notFound)

def openSource (t : Tree) (path : String) : Except PathError File := do
  match ← t.find path with
  | .directory => .error (.os .isDirectory)
  | .file f => .ok f

/-! ## Directories -/

/-- Makes one directory; its parent has to exist. -/
def makeDirectory (t : Tree) (path : Path) : Except PathError Tree := do
  checkText path.text
  match path.parts.getLast? with
  | none => .error (.os .alreadyExists)
  | some name =>
    let p ← t.walk (path.start t.home) path.parts.dropLast
    match t.get? p with
    | some .directory =>
      if name = ".." then .error (.os .alreadyExists)
      else if nameLimit < name.utf8ByteSize then .error (.os .nameTooLong)
      else
        match t.get? (p.child name) with
        | some _ => .error (.os .alreadyExists)
        | none => .ok (t.put (p.child name) .directory)
    | some (.file _) => .error (.os .notDirectory)
    | none => .error (.os .notFound)

/-- Is there a directory? A path that cannot be followed leads to none, unless a name in it is too
long, which is an error. -/
def isDirectory (t : Tree) (path : Path) : Except PathError Bool :=
  match t.find path.text with
  | .ok .directory => .ok true
  | .ok (.file _) => .ok false
  | .error (.os .nameTooLong) => .error (.os .nameTooLong)
  | .error .nul => .ok false
  | .error (.os _) => .ok false

/-- A refusal to make a directory does no harm if the directory is there. -/
def forgive (t : Tree) (path : Path) (e : PathError) : Tree × Except PathError Unit :=
  match t.isDirectory path with
  | .ok true => (t, .ok ())
  | .ok false => (t, .error e)
  | .error e' => (t, .error e')

/-- Makes a directory if it is missing, but none of its parents. -/
def ensureDirectory (t : Tree) (path : Path) : Tree × Except PathError Unit :=
  match t.makeDirectory path with
  | .ok t' => (t', .ok ())
  | .error .nul => (t, .error .nul)
  | .error (.os .notFound) => (t, .error (.os .notFound))
  | .error (.os e) => t.forgive path (.os e)

/-- Makes a directory and its missing parents. The components of its path are given last first. -/
def ensureFrom (t : Tree) (root : String) : List String → Tree × Except PathError Unit
  | [] => t.ensureDirectory ⟨root, []⟩
  | name :: above =>
    let path : Path := ⟨root, (name :: above).reverse⟩
    match t.ensureDirectory path with
    | (_, .error (.os .notFound)) =>
      match t.ensureFrom root above with
      | (t', .ok ()) => t'.ensureDirectory path
      | failed => failed
    | other => other

def makeDirectories (t : Tree) (path : Path) : Tree × Except PathError Unit :=
  t.ensureFrom path.root path.parts.reverse

/-! ## Log files -/

/-- The place of a log file, which is made if it is not there. It is opened under the path that
leads to it from the root, without `..`. -/
def openLog (t : Tree) (path : Path) : Except PathError (Tree × Place) := do
  let p := path.place t.home
  let root := if path.root.isEmpty then "/" else path.root
  checkText (Path.text ⟨root, p.names⟩)
  if (p.names.getLast?.map String.utf8ByteSize).getD 0 ≤ nameLimit then
    match t.get? p with
    | some .directory => .error (.os .isDirectory)
    | some (.file _) => .ok (t, p)
    | none => .ok (t.put p (.file ⟨.empty, []⟩), p)
  else .error (.os .nameTooLong)

def log (t : Tree) (p : Place) (r : Log.Record) : Tree :=
  match t.get? p with
  | some (.file f) => t.put p (.file { f with entries := f.entries ++ [r] })
  | _ => t

/-! ## Building trees -/

/-- Adds the directories on the way along `names` from a place. -/
def withDirectories (t : Tree) (p : Place) : List String → Tree
  | [] => t
  | name :: names =>
    let t' := match t.get? (p.child name) with
      | none => t.put (p.child name) .directory
      | some _ => t
    t'.withDirectories (p.child name) names

/-- The same tree with a file below the working directory. -/
def withFile (t : Tree) (path : String) (content : ByteArray) : Tree :=
  let parts := (Path.ofText path).parts
  (t.withDirectories t.home parts.dropLast).put (t.home.follow parts) (.file ⟨content, []⟩)

end Tree

/-- All bytes of a file, its log entries being written at `stamp`. -/
def File.bytes (f : File) (stamp : Log.Stamp) : ByteArray :=
  f.content ++ (String.join (f.entries.map (Log.Record.line stamp))).toUTF8

end RegisterMachine.Files
