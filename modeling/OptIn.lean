import OptIn.Fields
import OptIn.Main
import OptIn.Proofs.Path.Written
import OptIn.Proofs.Disk.Walk
import OptIn.Proofs.Host.Place
import OptIn.Proofs.Disk.Put
import OptIn.Proofs.Host.Grows
import OptIn.Proofs.Host.MakeDirectories
import OptIn.Proofs.Cache.Marker
import OptIn.Proofs.Run.Totals
import OptIn.Proofs.Multi.ExitCode
import OptIn.Proofs.Invoker.Transcript
import OptIn.Proofs.Invoker.Exchanges
import OptIn.Proofs.Invoker.Course
import OptIn.Proofs.Host.Files
import OptIn.Proofs.Host.Resolving
import OptIn.Proofs.Run.Selection
import OptIn.Proofs.Host.Physical
import OptIn.Proofs.Run.Report
import OptIn.Proofs.Cache.Usable
import OptIn.Proofs.Run.Trace
import OptIn.Proofs.Run.Returns
import OptIn.Proofs.Host.Checked
import OptIn.Proofs.Invoker.Verdict
import OptIn.Proofs.Run.Verdict
import OptIn.Proofs.Host.Edits
import OptIn.Proofs.Cache.Ledger
import OptIn.Proofs.Run.History
import OptIn.Proofs.Invoker.Availability
import OptIn.Proofs.Cache.Cabinet
import OptIn.Proofs.Cache.Alike
import OptIn.Proofs.Cache.Sequel
import OptIn.Proofs.Cache.AnyState
import OptIn.Proofs.Invoker.Ruling
import OptIn.Proofs.Run.Faults
import OptIn.Proofs.Run.Lockstep
import OptIn.Proofs.Run.Abreast
import OptIn.Proofs.Multi.Isolation
import OptIn.Proofs.Text.Encoding
import OptIn.Proofs.Text.Cuts
import OptIn.Proofs.Header.Boundary
import OptIn.Proofs.Header.Meaning
import OptIn.Proofs.Header.Conventions
import OptIn.Proofs.Header.Agreement
import OptIn.Proofs.Header.Below
import OptIn.Proofs.Run.Course
import OptIn.Proofs.Run.Commands
import OptIn.Proofs.Run.MissingTool
import OptIn.Proofs.Tool.Launching
import OptIn.Proofs.Multi.Containment
import OptIn.Proofs.Run.Repeat
import OptIn.Proofs.Header.Arguments
import OptIn.Proofs.Run.Inert
import OptIn.Proofs.CommandLine.Elsewhere
import OptIn.Proofs.Run.Interleaving
import OptIn.Proofs.Source.Agreement
import OptIn.Proofs.Cache.Twins
import OptIn.Proofs.Cache.Register
import OptIn.Proofs.Invoker.Coherence
import OptIn.Proofs.Disk.Stretch
import OptIn.Proofs.Run.Output
import OptIn.Proofs.Run.Aborted
import OptIn.Proofs.Run.LeftBehind
import OptIn.Proofs.Host.Avoiding
import OptIn.Proofs.Cache.Separate
import OptIn.Proofs.Driver.FinalExtension
import OptIn.Proofs.Text.Words
import OptIn.Proofs.Header.FirstLine
import OptIn.Proofs.Run.Candidates
import OptIn.Proofs.Run.Faithful
import OptIn.Proofs.Driver.Registration
import OptIn.Proofs.Run.Display
import OptIn.Proofs.Console.Escapes
import OptIn.Proofs.Host.Characters
import OptIn.Proofs.Run.Color
import OptIn.Proofs.Console.Title
import OptIn.Proofs.Multi.Headers
import OptIn.Proofs.Text.Unquoted
import OptIn.Proofs.Tool.Probing
