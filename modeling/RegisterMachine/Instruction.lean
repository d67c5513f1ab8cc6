import RegisterMachine.Microcode
import RegisterMachine.Operand

/-!
# Instructions

An instruction has a keyword, a signature and a routine. `Instruction.set` and `Instruction.add`
are the built-in ones; `Instruction.readOperands` checks the number of operands and reads them
from left to right.
-/

namespace RegisterMachine

structure Instruction where
  keyword : String
  operands : List Operand
  routine : Routine
  description : String

/-- Reads each token by the type of its operand; the first bad one decides. -/
def Operand.readAll : List Operand → List (Option String) → Except Diagnostic (List Int)
  | o :: os, t :: ts => do
    let v ← o.type.read t
    let vs ← readAll os ts
    return v :: vs
  | _, _ => .ok []

namespace Instruction

/-- The number of operands is checked before any of them is read. -/
def readOperands (i : Instruction) (tokens : List (Option String)) :
    Except Diagnostic (List Int) :=
  if tokens.length = i.operands.length then Operand.readAll i.operands tokens
  else .error (.ofKind .format)

def sample (i : Instruction) : String :=
  Text.joined " " (i.keyword :: i.operands.map Operand.placeholder)

def help (i : Instruction) : Except Fault (List String) := do
  let operands ← i.operands.mapM Operand.describe
  return (i.keyword ++ ": " ++ i.description) :: ("Example: " ++ i.sample) :: operands

/-! ## The built-in instructions -/

/-- `SET n i` with the given type of register index. -/
def setWith (index : OperandType) : Instruction where
  keyword := "SET"
  operands := [⟨"n", index⟩, ⟨"i", .word⟩]
  routine := .store
  description := "Sets $Rn to integer value i"

def set (count : Int) : Except Fault Instruction := do
  return setWith (← OperandType.register count)

/-- `ADD` puts the sum of registers 0 and 1 into register 0. -/
def add : Instruction where
  keyword := "ADD"
  operands := []
  routine := .accumulate
  description := "Sets $R0 = $R0 + $R1"

end Instruction

end RegisterMachine
