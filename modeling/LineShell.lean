import LineShell.Completer
import LineShell.Highlight
import LineShell.Main
import LineShell.Words.Positional
import LineShell.Words.Writing
import LineShell.Proofs.Words.Positional
import LineShell.Proofs.Words.Blank
import LineShell.Proofs.Words.Writing
import LineShell.Proofs.Request.Log
import LineShell.Proofs.Request.Bindings
import LineShell.Proofs.Request.Replay
import LineShell.Proofs.Request.Directory
import LineShell.Proofs.Command.Changes
import LineShell.Proofs.Command.Failure
import LineShell.Proofs.Command.Lockstep
import LineShell.Proofs.Startup.Sourcing
import LineShell.Proofs.Command.Reliable
import LineShell.Proofs.Session.Course
import LineShell.Proofs.Session.Conclusion
import LineShell.Proofs.Session.Farewell
import LineShell.Proofs.Session.Whole
import LineShell.Proofs.Session.ErrorStream
import LineShell.Proofs.Session.FullOutput
import LineShell.Proofs.Session.Interrupts
import LineShell.Proofs.Session.Quiet
import LineShell.Proofs.Completion.Chosen
import LineShell.Proofs.Words.Agreement
import LineShell.Proofs.Integer.Clamped
import LineShell.Proofs.History.Truncated
import LineShell.Proofs.History.Listing
import LineShell.Proofs.Checked.Command
import LineShell.Proofs.Command.Launches
import LineShell.Proofs.Options.Reading
import LineShell.Proofs.Words.Growth
import LineShell.Proofs.Startup.FilesRead
import LineShell.Proofs.Program.ExitStatus
import LineShell.Proofs.Highlight.Coloring
import LineShell.Proofs.Completion.Typed
import LineShell.Proofs.Completion.Paths
import LineShell.Proofs.Completion.Commands
import LineShell.Proofs.Highlight.Segments
