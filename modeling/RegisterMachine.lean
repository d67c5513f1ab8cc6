import RegisterMachine.Main
import RegisterMachine.Proofs.Batch
import RegisterMachine.Proofs.History
import RegisterMachine.Proofs.Session
import RegisterMachine.Proofs.Execution
import RegisterMachine.Proofs.Operation
import RegisterMachine.Proofs.Reachable
import RegisterMachine.Proofs.Canonical
import RegisterMachine.Proofs.Meaning
import RegisterMachine.Proofs.TraceLines
import RegisterMachine.Proofs.Rerun
import RegisterMachine.Proofs.Transparency
import RegisterMachine.Proofs.Files.Path
import RegisterMachine.Proofs.Files.Directories
import RegisterMachine.Proofs.Files.Sources
import RegisterMachine.Proofs.Log.Setup
import RegisterMachine.Proofs.Log.Delivery
import RegisterMachine.Proofs.Command.Arguments
import RegisterMachine.Proofs.Command.Refusal
import RegisterMachine.Proofs.Command.Transcript
import RegisterMachine.Proofs.Command.Running
import RegisterMachine.Proofs.Command.Verbosity
import RegisterMachine.Proofs.Command.Records
import RegisterMachine.Proofs.Scanning
import RegisterMachine.Proofs.Reading
import RegisterMachine.Proofs.Verdict
import RegisterMachine.Proofs.Log.Hierarchy
import RegisterMachine.Proofs.Log.Handlers
import RegisterMachine.Proofs.Effects
import RegisterMachine.Proofs.Forward
import RegisterMachine.Proofs.Chunks
import RegisterMachine.Proofs.Concatenation
import RegisterMachine.Proofs.Summary
import RegisterMachine.Proofs.Direct
import RegisterMachine.Proofs.Registry
import RegisterMachine.Proofs.Log.Retry
