import RegisterMachine.Event
import RegisterMachine.Line

/-!
# Assembly languages

A language is a list of instructions and a comment mark. Assembly is where operands are checked:

* `Language.lookup`: the first instruction with a keyword.
* `Language.assembleLine`: nothing for a blank line, a statement that does nothing for a comment,
  otherwise a statement whose operands have been read.
* `Language.assemble`: a whole source text, up to the first line that is rejected.
-/

namespace RegisterMachine

structure Language where
  instructions : List Instruction
  /-- What starts a comment. -/
  mark : String

def commentMark : String := "#"

namespace Language

/-- The first instruction with exactly this keyword; the empty keyword names none. -/
def lookup (l : Language) (keyword : Option String) : Except Diagnostic Instruction :=
  match keyword.filter (!·.isEmpty) with
  | none => .error (.ofKind .unknownInstruction)
  | some k =>
    match l.instructions.find? (·.keyword == k) with
    | some i => .ok i
    | none => .error (.ofKind .unknownInstruction)

/-- A missing line is read like an empty one. -/
def assembleLine (l : Language) (text : Option String) : Except Diagnostic Slot :=
  let line := Line.scan l.mark (text.getD "")
  match line.keyword with
  | none =>
    match line.comment with
    | none => .ok none
    | some c => .ok (some ⟨none, [], text, some c⟩)
  | some k => do
    let i ← l.lookup (some k)
    let values ← i.readOperands (line.operands.map some)
    return some ⟨some i, values, text, line.comment⟩

/-- Assembles the lines of a text in order, the first of them being line `n`. -/
def assembleLines (l : Language) (n : Nat) :
    List String → Except Failure (List Statement) × List Event
  | [] => (.ok [], [])
  | line :: rest =>
    match l.assembleLine line with
    | .error d =>
      match d.atLine n line with
      | .ok e => (.error (.rejected e), [.assemblyFailed n d])
      | .error f => (.error (.fault f), [.assemblyFailed n d])
    | .ok s =>
      let (result, log) := l.assembleLines (n + 1) rest
      (result.map (s.toList ++ ·), log)

/-- Assembles a source text; lines are numbered from 1 and blank ones are skipped. -/
def assemble (l : Language) (source : String) :
    Except Failure (List Statement) × List Event :=
  l.assembleLines 1 (Text.lines source)

def help (l : Language) : Except Fault (List String) := do
  return (← l.instructions.mapM Instruction.help).flatten

end Language

end RegisterMachine
