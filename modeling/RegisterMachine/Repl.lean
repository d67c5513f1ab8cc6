import RegisterMachine.Machine

/-!
# Line-by-line sessions

`Repl.respond` runs one line on a machine that lives through the session and answers with the
register summary, the help text or an error; a rejected line leaves the machine as it is.
-/

namespace RegisterMachine.Repl

def helpKeyword : String := "HELP"

/-- Marks the first help line of an instruction. -/
def headed : List String → List String
  | [] => []
  | l :: ls => ("# " ++ l) :: ls

def help (m : Machine) : Except Fault String := do
  let sections ← m.language.instructions.mapM Instruction.help
  return Text.joined "\n"
    (("I am running on a " ++ Decimal.text Machine.wordBits ++
      "-bit virtual machine. Instructions:") :: (sections.map headed).flatten)

def errorText (d : Diagnostic) : String := "ERROR: " ++ d.message ++ "."

/-- The answer to one line, or to a missing one. Its run may take `fuel` steps. -/
def respond (fuel : Nat) (m : Machine) (text : Option String) : Outcome Machine String :=
  if (Line.scan m.language.mark (text.getD "")).keyword = some helpKeyword then .ofFaulty m (help m)
  else
    match m.language.assembleLine text with
    | .error d =>
      ⟨m, [.lineRejected text d], .ok (errorText d)⟩
    | .ok none => .ofFaulty m m.summary
    | .ok (some s) =>
      ((m.append (.sequence [some s])).andThen fun _ m' => m'.run fuel).andThen fun _ m' =>
        .ofFaulty m' m'.summary

end RegisterMachine.Repl
