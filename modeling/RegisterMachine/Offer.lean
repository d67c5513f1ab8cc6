import RegisterMachine.Statement

/-!
# Offers

What can be offered to a machine as further statements. Only a sequence of them is taken;
`Offer.quoted` shows an offer on one line.
-/

namespace RegisterMachine

inductive Offer where
  | sequence (slots : List Slot)
  | statement (s : Statement)
  | text (s : String)
  | number (literal : String)
  | truth (b : Bool)
  | nothing

def Slot.quoted (s : Slot) : String := (s.map Statement.quoted).getD "None"

def Offer.quoted : Offer → String
  | sequence ss => "[" ++ Text.joined ", " (ss.map Slot.quoted) ++ "]"
  | statement s => s.quoted
  | text s => Text.quoted s
  | number literal => literal
  | truth b => if b then "True" else "False"
  | nothing => "None"

end RegisterMachine
