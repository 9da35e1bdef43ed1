import DeviceCli.Clause.Lexer
import DeviceCli.Clause.Literal
import DeviceCli.Clause.Step
import DeviceCli.Clause.Token
import DeviceCli.Decimal.Binary64
import DeviceCli.Decimal.Shortest
import DeviceCli.Device.Link
import DeviceCli.Device.Replay
import DeviceCli.Device.Scripted
import DeviceCli.Driver.Diagnostic
import DeviceCli.Driver.Routine
import DeviceCli.Driver.Visit
import DeviceCli.Failure
import DeviceCli.Inventory.Attribute
import DeviceCli.Inventory.Store
import DeviceCli.Json.Basic
import DeviceCli.Json.Parser
import DeviceCli.Json.Printer
import DeviceCli.Json.Record
import DeviceCli.Json.Skip
import DeviceCli.Keyed
import DeviceCli.Mode.Basic
import DeviceCli.Mode.Document
import DeviceCli.Mode.Registry
import DeviceCli.Net.Address
import DeviceCli.Pattern
import DeviceCli.Proofs.Mode.Sound
import DeviceCli.Proofs.Screen.Settle
import DeviceCli.Proofs.Session.Ending
import DeviceCli.Proofs.Session.Frame
import DeviceCli.Proofs.Session.Hop
import DeviceCli.Proofs.Session.Journal
import DeviceCli.Proofs.Session.Pager
import DeviceCli.Proofs.Session.Pages
import DeviceCli.Proofs.Session.Prompt
import DeviceCli.Proofs.Session.Tour
import DeviceCli.Proofs.Session.Track
import DeviceCli.Regex.Basic
import DeviceCli.Regex.ByteRanges
import DeviceCli.Regex.Footprint
import DeviceCli.Regex.Lexer
import DeviceCli.Regex.Node
import DeviceCli.Regex.Parser
import DeviceCli.Regex.Program
import DeviceCli.Regex.Property
import DeviceCli.Regex.Repertoire
import DeviceCli.Regex.Resolve
import DeviceCli.Regex.Search
import DeviceCli.Regex.Segmentation
import DeviceCli.Regex.Syntax
import DeviceCli.Rule.Basic
import DeviceCli.Rule.Provider
import DeviceCli.Rule.Verdict
import DeviceCli.Screen.Basic
import DeviceCli.Screen.ControlSequence
import DeviceCli.Screen.Echo
import DeviceCli.Screen.Edit
import DeviceCli.Screen.Editor
import DeviceCli.Screen.Links
import DeviceCli.Section
import DeviceCli.Session.Basic
import DeviceCli.Session.Command
import DeviceCli.Session.Walk
import DeviceCli.Settings.Engine
import DeviceCli.Settings.Environment
import DeviceCli.Settings.Library
import DeviceCli.Settings.Profile
import DeviceCli.Text.Age
import DeviceCli.Text.AgeTable
import DeviceCli.Text.AlphabeticTable
import DeviceCli.Text.Blank
import DeviceCli.Text.Case
import DeviceCli.Text.CaseTable
import DeviceCli.Text.Category
import DeviceCli.Text.CategoryTable
import DeviceCli.Text.CodeSet
import DeviceCli.Text.Duration
import DeviceCli.Text.Identifier
import DeviceCli.Text.Line
import DeviceCli.Text.Numeral
import DeviceCli.Text.PropertyTable
import DeviceCli.Text.Run
import DeviceCli.Text.Script
import DeviceCli.Text.ScriptExtensionTable
import DeviceCli.Text.ScriptTable
import DeviceCli.Toml.Moment
import DeviceCli.Toml.Parser
import DeviceCli.Toml.Table
import DeviceCli.Toml.Token
import DeviceCli.Proofs.Section.Blocks
import DeviceCli.Proofs.Screen.Echo
import DeviceCli.Proofs.Session.Echo
import DeviceCli.Proofs.Json.Document
import DeviceCli.Proofs.Session.Abreast
import DeviceCli.Proofs.Json.Record
import DeviceCli.Proofs.Mode.RoundTrip
import DeviceCli.Proofs.Keyed
import DeviceCli.Proofs.Mode.Construction
import DeviceCli.Proofs.Driver.Stage
import DeviceCli.Proofs.Driver.Diagnosis
import DeviceCli.Proofs.Except
import DeviceCli.Proofs.Regex.Shape
import DeviceCli.Proofs.Regex.Run
import DeviceCli.Proofs.Regex.Search
import DeviceCli.Proofs.Device.Scripted
import DeviceCli.Proofs.Regex.Names
import DeviceCli.Proofs.Regex.Lexer
import DeviceCli.Proofs.Regex.Class
import DeviceCli.Proofs.Regex.Row
import DeviceCli.Proofs.Regex.Assembly
import DeviceCli.Proofs.Pattern.Pinned
import DeviceCli.Proofs.Pattern.Capture
import DeviceCli.Proofs.Pattern.Literal
import DeviceCli.Proofs.Session.Refusal
import DeviceCli.Proofs.Session.Avoid
import DeviceCli.Proofs.Screen.Clean
import DeviceCli.Proofs.Screen.LineWise
import DeviceCli.Proofs.Device.Queue
import DeviceCli.Proofs.Session.Queue
import DeviceCli.Proofs.Screen.Written
import DeviceCli.Proofs.Screen.ControlSequence
import DeviceCli.Proofs.Section.Layout
import DeviceCli.Proofs.Section.Join
import DeviceCli.Proofs.Rule.Verdict
import DeviceCli.Proofs.Inventory.Store
import DeviceCli.Proofs.Driver.Delivery
import DeviceCli.Proofs.Driver.Writes
import DeviceCli.Proofs.Driver.Visit
import DeviceCli.Proofs.Mode.Strict
import DeviceCli.Proofs.Text.Rows
import DeviceCli.Proofs.Failure.Excerpt
import DeviceCli.Proofs.Text.Numeral
import DeviceCli.Proofs.Settings.Environment
import DeviceCli.Proofs.Clause.Grammar
import DeviceCli.Proofs.Clause.Expansion
import DeviceCli.Proofs.Screen.Cells
import DeviceCli.Proofs.Screen.Unlinking
