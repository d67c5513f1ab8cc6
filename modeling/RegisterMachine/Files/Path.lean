import RegisterMachine.Text.Lines

/-!
# Paths

* `Path`: a path without empty and `.` components, as it is shown to the user. `..` stays.
* `Place`: where a path leads from the working directory or the root, once `..` is resolved. All
  spellings of a path to a file lead to one place.
-/

namespace RegisterMachine.Files

/-- A path in normal form. -/
structure Path where
  /-- Empty for a relative path, otherwise one or two slashes. -/
  root : String
  parts : List String
deriving DecidableEq, Repr

namespace Path

/-- Two leading slashes are kept, any other number of them counts as one. -/
def rootOf (cs : List Char) : String :=
  match (cs.takeWhile (· == '/')).length with
  | 0 => ""
  | 2 => "//"
  | _ => "/"

def components (s : String) : List String := (Text.cutAt '/' s.toList).map String.ofList

/-- Reads a path and drops the components that lead nowhere. -/
def ofText (s : String) : Path :=
  ⟨rootOf s.toList, (components s).filter fun c => !(c == "" || c == ".")⟩

/-- The working directory is shown as `.`. -/
def text (p : Path) : String :=
  let s := p.root ++ Text.joined "/" p.parts
  if s.isEmpty then "." else s

/-- The path without its last component; a path without components is its own parent. -/
def parent (p : Path) : Path := { p with parts := p.parts.dropLast }

end Path

/-- A position in the file system: the names on the way to it from the root. -/
structure Place where
  names : List String
deriving DecidableEq, Repr

namespace Place

def fileSystemRoot : Place := ⟨[]⟩

/-- The containing directory; the root contains itself. -/
def up (p : Place) : Place := ⟨p.names.dropLast⟩

def child (p : Place) (name : String) : Place := ⟨p.names ++ [name]⟩

/-- Is the place on the way from the root to `q`, or `q` itself? -/
def isAbove (p q : Place) : Bool := p.names.isPrefixOf q.names

/-- Follows names and `..` without looking at the file system. -/
def follow (p : Place) : List String → Place
  | [] => p
  | c :: cs => (if c = ".." then p.up else p.child c).follow cs

/-- Where a path starts if the working directory is `home`. -/
def start (home : Place) (absolute : Bool) : Place := if absolute then fileSystemRoot else home

end Place

namespace Path

def start (p : Path) (home : Place) : Place := home.start (!p.root.isEmpty)

/-- Where a path leads if `..` always goes back by one name. -/
def place (p : Path) (home : Place) : Place := (p.start home).follow p.parts

end Path

end RegisterMachine.Files
