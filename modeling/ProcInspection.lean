import ProcInspection.CommandLine.Arguments
import ProcInspection.CommandLine.Help
import ProcInspection.CommandLine.Run
import ProcInspection.Connection.Endpoint
import ProcInspection.Connection.Row
import ProcInspection.Connection.State
import ProcInspection.Connection.Table
import ProcInspection.ExitCode
import ProcInspection.Failure
import ProcInspection.FileSystem
import ProcInspection.FileTree
import ProcInspection.FileTree.Build
import ProcInspection.FileTree.Manifest
import ProcInspection.Inspection
import ProcInspection.Inspection.Trace
import ProcInspection.IoFailure
import ProcInspection.Json
import ProcInspection.Log.Directive
import ProcInspection.Log.Event
import ProcInspection.Log.FieldTest
import ProcInspection.Log.Filter
import ProcInspection.Log.Level
import ProcInspection.Log.Line
import ProcInspection.Log.Pattern
import ProcInspection.Log.Pattern.Bracket
import ProcInspection.Log.Pattern.Escape
import ProcInspection.Log.Pattern.Group
import ProcInspection.Log.Pattern.Height
import ProcInspection.Log.Pattern.Mode
import ProcInspection.Log.Settings
import ProcInspection.Main
import ProcInspection.Ownership
import ProcInspection.Path
import ProcInspection.Proofs.CommandLine.Failure
import ProcInspection.Proofs.CommandLine.Quiet
import ProcInspection.Proofs.CommandLine.Run
import ProcInspection.Proofs.Connection.Endpoint
import ProcInspection.Proofs.Connection.Lines
import ProcInspection.Proofs.Connection.RoundTrip
import ProcInspection.Proofs.Connection.Row
import ProcInspection.Proofs.Failure
import ProcInspection.Proofs.FileSystem
import ProcInspection.Proofs.FileSystem.Entry
import ProcInspection.Proofs.FileSystem.Footprint
import ProcInspection.Proofs.FileTree.Alike
import ProcInspection.Proofs.FileTree.Build
import ProcInspection.Proofs.FileTree.Change
import ProcInspection.Proofs.FileTree.Steps
import ProcInspection.Proofs.FileTree.Trail
import ProcInspection.Proofs.FileTree.View
import ProcInspection.Proofs.FileTree.Walk
import ProcInspection.Proofs.FileTree.Way
import ProcInspection.Proofs.Inspection
import ProcInspection.Proofs.Inspection.Isolation
import ProcInspection.Proofs.Inspection.Laid
import ProcInspection.Proofs.Json.Compact
import ProcInspection.Proofs.Json.Grammar
import ProcInspection.Proofs.Json.Indented
import ProcInspection.Proofs.Json.Reader
import ProcInspection.Proofs.Log.Settings
import ProcInspection.Proofs.Ownership
import ProcInspection.Proofs.Ownership.Inodes
import ProcInspection.Proofs.Path
import ProcInspection.Proofs.Path.Components
import ProcInspection.Proofs.Report.Columns
import ProcInspection.Proofs.Report.Document
import ProcInspection.Proofs.Report.Height
import ProcInspection.Proofs.Report.Layout
import ProcInspection.Proofs.Report.Lines
import ProcInspection.Proofs.Report.Room
import ProcInspection.Proofs.Report.Write
import ProcInspection.Proofs.Task.Descriptor
import ProcInspection.Proofs.Task.Descriptor.Numbers
import ProcInspection.Proofs.Task.Descriptor.Snapshot
import ProcInspection.Proofs.Task.Descriptor.Socket
import ProcInspection.Proofs.Task.Id
import ProcInspection.Proofs.Task.Name
import ProcInspection.Proofs.Task.Name.Faithful
import ProcInspection.Proofs.Task.Name.Readings
import ProcInspection.Proofs.Task.StateScan
import ProcInspection.Proofs.Task.StateScan.Stream
import ProcInspection.Proofs.Task.Status
import ProcInspection.Proofs.Task.Status.Document
import ProcInspection.Proofs.Task.Status.RoundTrip
import ProcInspection.Proofs.Task.Status.State
import ProcInspection.Proofs.Task.Status.Unparsed
import ProcInspection.Proofs.Task.Thread
import ProcInspection.Proofs.Text.Hex
import ProcInspection.Proofs.Text.Number
import ProcInspection.Proofs.Text.Trim
import ProcInspection.Proofs.Text.Utf8
import ProcInspection.Proofs.Text.Utf8.Stretches
import ProcInspection.Proofs.Text.Words
import ProcInspection.Proofs.Text.Zeros
import ProcInspection.Report.Document
import ProcInspection.Report.Format
import ProcInspection.Report.Human
import ProcInspection.Report.Write
import ProcInspection.RootChoice
import ProcInspection.Task.Descriptor
import ProcInspection.Task.Id
import ProcInspection.Task.Name
import ProcInspection.Task.RunState
import ProcInspection.Task.StateScan
import ProcInspection.Task.Status
import ProcInspection.Task.Thread
import ProcInspection.Text.Alphanumeric
import ProcInspection.Text.Blank
import ProcInspection.Text.Choice
import ProcInspection.Text.Column
import ProcInspection.Text.Decimal
import ProcInspection.Text.Hex
import ProcInspection.Text.Utf8
