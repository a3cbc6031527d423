import TextShell.Text.Blank
import TextShell.Text.Grapheme
import TextShell.Text.LineBreak
import TextShell.Text.Quoted
import TextShell.Text.Uppercase
import TextShell.FileSystem.Fault
import TextShell.FileSystem.Path
import TextShell.FileSystem.Basic
import TextShell.FileSystem.Resolution
import TextShell.FileSystem.Operations
import TextShell.Verb
import TextShell.Request.Reading
import TextShell.Session.Dispatch
import TextShell.CommandLine.Program
import TextShell.Main
import TextShell.Proofs.Path.Names
import TextShell.Proofs.Path.Components
import TextShell.Proofs.Path.FileName
import TextShell.Proofs.FileSystem.Walk
import TextShell.Proofs.FileSystem.Approach
import TextShell.Proofs.FileSystem.LastName
import TextShell.Proofs.FileSystem.Effect
import TextShell.Proofs.FileSystem.RegularFile
import TextShell.Proofs.FileSystem.Replacement
import TextShell.Proofs.FileSystem.KeptWays
import TextShell.Proofs.FileSystem.Repetition
import TextShell.Proofs.FileSystem.SamePlace
import TextShell.Proofs.FileSystem.PathsAlike
import TextShell.Proofs.FileSystem.NewDirectories
import TextShell.Proofs.FileSystem.TextFiles
import TextShell.Proofs.FileSystem.StraightPaths
import TextShell.Proofs.FileSystem.Footprint
import TextShell.Proofs.FileSystem.Trail
import TextShell.Proofs.FileSystem.HiddenPlaces
import TextShell.Proofs.Text.Lines
import TextShell.Proofs.Text.RoundTrip
import TextShell.Proofs.Text.BlankLines
import TextShell.Proofs.Text.Capitals
import TextShell.Proofs.Edit.Run
import TextShell.Proofs.Edit.Script
import TextShell.Proofs.Edit.Positions
import TextShell.Proofs.Edit.Undo
import TextShell.Proofs.Edit.Reordering
import TextShell.Proofs.Edit.Relabeling
import TextShell.Proofs.Request.CarryOut
import TextShell.Proofs.Request.CopyOutcome
import TextShell.Proofs.Request.UpdateOutcome
import TextShell.Proofs.Request.CreateOutcome
import TextShell.Proofs.Request.Scanning
import TextShell.Proofs.Request.UpdateForm
import TextShell.Proofs.Request.WrittenForm
import TextShell.Proofs.Request.TrailingBlanks
import TextShell.Proofs.Request.CommandPaths
import TextShell.Proofs.Session.CommandNames
import TextShell.Proofs.Session.Local
import TextShell.Proofs.Session.BuiltIn
import TextShell.Proofs.Session.Report
import TextShell.Proofs.Session.Closing
import TextShell.Proofs.Session.FailedCommand
import TextShell.Proofs.Session.TextFilesOnly
import TextShell.Proofs.Session.UpdateRun
import TextShell.Proofs.Session.Repetition
import TextShell.Proofs.Session.Commuting
import TextShell.Proofs.Session.TrailingBlanks
import TextShell.Proofs.Session.HiddenPlaces
import TextShell.Proofs.ReadLoop.Serving
import TextShell.Proofs.ReadLoop.Fold
import TextShell.Proofs.ReadLoop.Unnoticed
import TextShell.Proofs.ReadLoop.HistoryKept
import TextShell.Proofs.CommandLine.Status
import TextShell.Proofs.CommandLine.OptionOrder
import TextShell.Proofs.ReadLoop.HistoryEntries
import TextShell.Proofs.Text.Backspaces
