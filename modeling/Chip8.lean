import Chip8.CallStack
import Chip8.CommandLine.Arguments
import Chip8.CommandLine.Files
import Chip8.CommandLine.Invocation
import Chip8.CommandLine.Report
import Chip8.CommandLine.Trouble
import Chip8.CommandLine.Value
import Chip8.Debugger
import Chip8.Debugger.AddressSet
import Chip8.Debugger.StopEvent
import Chip8.Error
import Chip8.Fault
import Chip8.Instruction.Basic
import Chip8.Instruction.Decode
import Chip8.Keypad
import Chip8.Machine.Action
import Chip8.Machine.Basic
import Chip8.Machine.Cycle
import Chip8.Machine.Perform
import Chip8.Main
import Chip8.Memory
import Chip8.Overwrite
import Chip8.Picture
import Chip8.Place
import Chip8.Png
import Chip8.Proofs.ActionRuns
import Chip8.Proofs.CallsAndReturns
import Chip8.Proofs.DebuggerTransparency
import Chip8.Proofs.Execution
import Chip8.Proofs.FaultAtomicity
import Chip8.Proofs.FaultConditions
import Chip8.Proofs.Frames
import Chip8.Proofs.InstructionFaults
import Chip8.Proofs.KeyWait
import Chip8.Proofs.Raw.Cycle
import Chip8.Proofs.Raw.Drawing
import Chip8.Proofs.Raw.Execution
import Chip8.Proofs.Raw.Lists
import Chip8.Proofs.Raw.Machine
import Chip8.Proofs.Raw.Operations
import Chip8.Proofs.Raw.Session
import Chip8.Proofs.Raw.SessionView
import Chip8.Proofs.Raw.View
import Chip8.Proofs.SessionMoves
import Chip8.Proofs.SessionRuns
import Chip8.Proofs.WellFormedness
import Chip8.Proofs.WordForms
import Chip8.Random
import Chip8.Random.Twister
import Chip8.Raster
import Chip8.RegisterDump
import Chip8.Runs
import Chip8.Screen.Basic
import Chip8.Screen.Sprite
import Chip8.Session
import Chip8.Session.Command
import Chip8.Session.Run
import Chip8.SignedWord
import Chip8.Text.Blank
import Chip8.Text.ControlSequence
import Chip8.Text.Digit
import Chip8.Text.Integer
import Chip8.Text.Numeral
import Chip8.Text.Printable
import Chip8.Text.Quoted
import Chip8.Text.Similarity
import Chip8.Proofs.StopRequests
import Chip8.Proofs.BreakpointChecks
import Chip8.Proofs.VisitedRuns
import Chip8.Proofs.Breakpoints
import Chip8.Proofs.RunSplitting
import Chip8.Proofs.Chronicle
import Chip8.Proofs.TimerCadence
import Chip8.Proofs.Successors
import Chip8.Proofs.ProgramCounter
import Chip8.Proofs.Responses
import Chip8.Proofs.Agreement
import Chip8.Proofs.Leeway
import Chip8.Proofs.NearSessions
import Chip8.Proofs.Dialogue
import Chip8.Proofs.NearDialogues
import Chip8.Proofs.AlikeSessions
import Chip8.Proofs.Reset
import Chip8.Proofs.MemoryAccess
import Chip8.Proofs.EdgePolicy
import Chip8.Proofs.Refresh
import Chip8.Proofs.StaleSlots
import Chip8.Proofs.RunReports
import Chip8.Proofs.SpriteCompositing
import Chip8.Proofs.RandomDraws
import Chip8.Proofs.PlainText
import Chip8.Proofs.OptionOrder
import Chip8.Proofs.RunCommand
import Chip8.Proofs.FirstVisits
import Chip8.Proofs.Arithmetic
import Chip8.Proofs.WriteFootprints
import Chip8.Proofs.MemoryBlocks
import Chip8.Proofs.RegisterBlocks
import Chip8.Proofs.DrawingOrder
import Chip8.Proofs.Fields
import Chip8.Proofs.FaultMessages
import Chip8.Proofs.RegisterSummaries
import Chip8.Proofs.Mnemonics
import Chip8.Proofs.Enlargement
import Chip8.Proofs.Raw.Showing
import Chip8.Proofs.ScreenViews
import Chip8.Proofs.IntegerTexts
import Chip8.Proofs.AddressTexts
import Chip8.Proofs.Keypads
import Chip8.Proofs.KeyLatches
