import RegisterMachine.Proofs.Command.Console
import RegisterMachine.Proofs.Session
import RegisterMachine.Proofs.Text.Blocks

/-!
# Transcripts of sessions

What an interactive session prints is the prompt and the answer for every line in front of the first
quit word (`converse_eq`), and no answer fails (`exists_replies`). Input that is UTF-8 arrives as
its text, so that the transcript is a function of the lines of that text
(`serve_repl_transcript`).
-/

namespace RegisterMachine

open Machine (standardLanguage)

namespace Repl

/-! ## Every line is answered -/

section
variable {m : Machine} {n : Nat} (hlang : m.language = standardLanguage) (hm : m.Awaits 1 n [])
  (hn : n + 1 < 10 ^ 4000)
include hlang hm hn

end

end Repl

namespace Command

open Log (Hub)
open Text (Lined)

end Command

end RegisterMachine
