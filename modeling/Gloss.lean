import Gloss.Annotate
import Gloss.Call.Arguments
import Gloss.Call.Quote
import Gloss.Call.Site
import Gloss.Command.Arguments
import Gloss.Command.Exit
import Gloss.Command.Json
import Gloss.Command.Response
import Gloss.Command.Run
import Gloss.Context
import Gloss.Edit.Assemble
import Gloss.Edit.Basic
import Gloss.Entries
import Gloss.File.Disk
import Gloss.File.Path
import Gloss.File.View
import Gloss.Main
import Gloss.Note.Accessor
import Gloss.Note.Field
import Gloss.Note.Fragment
import Gloss.Note.Inline
import Gloss.Note.Line
import Gloss.Note.Network
import Gloss.Note.Owner
import Gloss.Note.Registration
import Gloss.Note.Scoped
import Gloss.Number.Binary64
import Gloss.Number.Numeral
import Gloss.Pattern.Basic
import Gloss.Pattern.Class
import Gloss.Pattern.Machine
import Gloss.Pattern.Match
import Gloss.Pattern.Reader
import Gloss.Pattern.Search
import Gloss.Pattern.Size
import Gloss.Proofs.Annotate.Again
import Gloss.Proofs.Annotate.Default
import Gloss.Proofs.Annotate.Present
import Gloss.Proofs.Annotate.Quiet
import Gloss.Proofs.Annotate.Remark
import Gloss.Proofs.Annotate.Settled
import Gloss.Proofs.Annotate.Template
import Gloss.Proofs.Annotate.Total
import Gloss.Proofs.Boundary
import Gloss.Proofs.Call.Arguments
import Gloss.Proofs.Call.Bytes
import Gloss.Proofs.Call.Close
import Gloss.Proofs.Call.Quote
import Gloss.Proofs.Call.Scan
import Gloss.Proofs.Call.Span
import Gloss.Proofs.Call.Split
import Gloss.Proofs.Command.DryRun
import Gloss.Proofs.Command.PlainTree
import Gloss.Proofs.Edit.Assemble
import Gloss.Proofs.Edit.Insertion
import Gloss.Proofs.Edit.Order
import Gloss.Proofs.Edit.Substitution
import Gloss.Proofs.Entries
import Gloss.Proofs.File.Disk
import Gloss.Proofs.File.Path
import Gloss.Proofs.Lines
import Gloss.Proofs.Note.AssignedName
import Gloss.Proofs.Note.Assignment
import Gloss.Proofs.Note.Binding
import Gloss.Proofs.Note.Blocks
import Gloss.Proofs.Note.ClassLine
import Gloss.Proofs.Note.ClassSearch
import Gloss.Proofs.Note.EditorTable
import Gloss.Proofs.Note.InlineBlocks
import Gloss.Proofs.Note.LineEnding
import Gloss.Proofs.Note.NearestBinding
import Gloss.Proofs.Note.Registered
import Gloss.Proofs.Note.RegistrationFields
import Gloss.Proofs.Note.RegistrationSpan
import Gloss.Proofs.Note.Remark
import Gloss.Proofs.Number.Exact
import Gloss.Proofs.Number.Spelling
import Gloss.Proofs.Pattern.Alike
import Gloss.Proofs.Pattern.AllMatches
import Gloss.Proofs.Pattern.Capture
import Gloss.Proofs.Pattern.ClassExtent
import Gloss.Proofs.Pattern.Escape
import Gloss.Proofs.Pattern.Extent
import Gloss.Proofs.Pattern.Group
import Gloss.Proofs.Pattern.LinePattern
import Gloss.Proofs.Pattern.Place
import Gloss.Proofs.Pattern.Reach
import Gloss.Proofs.Pattern.Steps
import Gloss.Proofs.Pattern.Template
import Gloss.Proofs.Scope.Folder
import Gloss.Proofs.Scope.HubBase
import Gloss.Proofs.Scope.Nearest
import Gloss.Proofs.Scope.OwnFolder
import Gloss.Proofs.Scope.Winner
import Gloss.Proofs.Script.Address
import Gloss.Proofs.Script.Directory
import Gloss.Proofs.Script.Path
import Gloss.Proofs.Session.History
import Gloss.Proofs.Session.Memory
import Gloss.Proofs.Settings.Codec
import Gloss.Proofs.Settings.Reload
import Gloss.Proofs.Toml.Distinct
import Gloss.Proofs.Toml.Lexeme
import Gloss.Proofs.Toml.Merge
import Gloss.Proofs.Toml.Printed
import Gloss.Proofs.Tree.Again
import Gloss.Proofs.Tree.Attachment
import Gloss.Proofs.Tree.ClassLine
import Gloss.Proofs.Tree.Frame
import Gloss.Proofs.Words
import Gloss.Scope.Base
import Gloss.Scope.Classify
import Gloss.Scope.Folder
import Gloss.Scope.Rule
import Gloss.Script.Path
import Gloss.Session
import Gloss.Settings.Basic
import Gloss.Settings.Codec
import Gloss.Settings.Environment
import Gloss.Settings.Error
import Gloss.Settings.Store
import Gloss.Text.Basic
import Gloss.Text.Case
import Gloss.Text.Letter
import Gloss.Text.Offset
import Gloss.Text.Printable
import Gloss.Text.Range
import Gloss.Text.Utf8
import Gloss.Toml.Moment
import Gloss.Toml.Printer
import Gloss.Toml.Reader
import Gloss.Toml.Value
import Gloss.Tree
