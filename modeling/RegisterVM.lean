import RegisterVM.CommandLine.Options
import RegisterVM.CommandLine.Report
import RegisterVM.Console.Input
import RegisterVM.Console.Loop
import RegisterVM.Console.Sink
import RegisterVM.Debugger.Argument
import RegisterVM.Debugger.Command
import RegisterVM.Debugger.Event
import RegisterVM.Debugger.Session
import RegisterVM.Fullscreen.App
import RegisterVM.Fullscreen.Editor
import RegisterVM.Fullscreen.Key
import RegisterVM.Fullscreen.View
import RegisterVM.Machine.Address
import RegisterVM.Machine.Basic
import RegisterVM.Machine.Decode
import RegisterVM.Machine.Fault
import RegisterVM.Machine.Instruction
import RegisterVM.Machine.Memory
import RegisterVM.Machine.Register
import RegisterVM.Machine.Run
import RegisterVM.Machine.Step
import RegisterVM.Machine.Word
import RegisterVM.Main
import RegisterVM.Program.File
import RegisterVM.Program.Image
import RegisterVM.Program.LoadError
import RegisterVM.Program.Reader
import RegisterVM.Program.Source
import RegisterVM.Proofs.CommandLine.ExitCode
import RegisterVM.Proofs.Console.Dialogue
import RegisterVM.Proofs.Console.InPlace
import RegisterVM.Proofs.Console.Input
import RegisterVM.Proofs.Console.Insertion
import RegisterVM.Proofs.Console.Limits
import RegisterVM.Proofs.Console.Prompts
import RegisterVM.Proofs.Console.Refusal
import RegisterVM.Proofs.Console.Unattended
import RegisterVM.Proofs.Console.Unlimited
import RegisterVM.Proofs.Debugger.Calls
import RegisterVM.Proofs.Debugger.CountedStep
import RegisterVM.Proofs.Debugger.Dialogue
import RegisterVM.Proofs.Debugger.Drain
import RegisterVM.Proofs.Debugger.Execution
import RegisterVM.Proofs.Debugger.FreeRun
import RegisterVM.Proofs.Debugger.Inert
import RegisterVM.Proofs.Debugger.Invariant
import RegisterVM.Proofs.Debugger.Restart
import RegisterVM.Proofs.Debugger.Runs
import RegisterVM.Proofs.Debugger.Transparency
import RegisterVM.Proofs.FrontEnds
import RegisterVM.Proofs.Fullscreen.Dialogue
import RegisterVM.Proofs.Fullscreen.Modes
import RegisterVM.Proofs.Machine.Encoding
import RegisterVM.Proofs.Machine.Faults
import RegisterVM.Proofs.Machine.Footprint
import RegisterVM.Proofs.Machine.InPlace
import RegisterVM.Proofs.Machine.Iteration
import RegisterVM.Proofs.Text.Words
import RegisterVM.Screen.Box
import RegisterVM.Screen.Cell
import RegisterVM.Text.Blank
import RegisterVM.Text.Cluster
import RegisterVM.Text.Letters
import RegisterVM.Text.Lines
import RegisterVM.Text.Mark
import RegisterVM.Text.Numeral
import RegisterVM.Text.Quoted
import RegisterVM.Text.Ranges
import RegisterVM.Text.Visible
import RegisterVM.Text.Width
import RegisterVM.Proofs.Debugger.Stuck
import RegisterVM.Proofs.Console.Accounts
import RegisterVM.Proofs.Machine.Guarded
import RegisterVM.Proofs.Debugger.Guarded
import RegisterVM.Proofs.Fullscreen.Guarded
import RegisterVM.Proofs.Program.Spelling
import RegisterVM.Proofs.Machine.FetchOrder
import RegisterVM.Proofs.Program.Verdict
import RegisterVM.Proofs.Fullscreen.Discipline
import RegisterVM.Proofs.Debugger.Remarks
import RegisterVM.Proofs.Fullscreen.Log
import RegisterVM.Proofs.Machine.Sequence
import RegisterVM.Proofs.Machine.Subroutine
import RegisterVM.Proofs.Machine.Stack
import RegisterVM.Proofs.Machine.Arithmetic
import RegisterVM.Proofs.Machine.Watched
import RegisterVM.Proofs.Machine.Accesses
import RegisterVM.Proofs.Debugger.Arguments
import RegisterVM.Proofs.Debugger.Abbreviation
import RegisterVM.Proofs.Fullscreen.Keys
import RegisterVM.Proofs.Fullscreen.Panes
import RegisterVM.Proofs.Fullscreen.Window
import RegisterVM.Proofs.Text.Spelling
import RegisterVM.Proofs.Text.Places
import RegisterVM.Proofs.Fullscreen.Formats
import RegisterVM.Proofs.Debugger.Listing
