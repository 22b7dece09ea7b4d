import ApiManual.Annotation.Block
import ApiManual.Annotation.Draft
import ApiManual.Annotation.Fragment
import ApiManual.Annotation.Reading
import ApiManual.Annotation.Source
import ApiManual.Annotation.Tag
import ApiManual.Annotation.Tokens
import ApiManual.Annotation.Warning
import ApiManual.Archive
import ApiManual.Article
import ApiManual.BasePath
import ApiManual.Binary64.Basic
import ApiManual.Binary64.Shortest
import ApiManual.Command.Basic
import ApiManual.Command.Line
import ApiManual.Command.Message
import ApiManual.Command.Run
import ApiManual.Endpoint
import ApiManual.Exchange.FieldMap
import ApiManual.Exchange.Message
import ApiManual.Failure
import ApiManual.Format
import ApiManual.HeaderMap
import ApiManual.Host.Basic
import ApiManual.Host.Session
import ApiManual.Http
import ApiManual.Json.Numeral
import ApiManual.Json.Reader
import ApiManual.Json.Shape
import ApiManual.Json.Token
import ApiManual.Json.Value
import ApiManual.Json.Writer
import ApiManual.Keyed
import ApiManual.Main
import ApiManual.Manual
import ApiManual.Page
import ApiManual.Param
import ApiManual.Proofs.Annotation.Unrolling
import ApiManual.Proofs.Text.Words
import ApiManual.Publish
import ApiManual.Registry
import ApiManual.Replay.Responder
import ApiManual.Replay.Score
import ApiManual.Report
import ApiManual.Settings
import ApiManual.Text.Blank
import ApiManual.Text.Decimal
import ApiManual.Text.LetterCase
import ApiManual.Text.Percent
import ApiManual.Text.Quoted
import ApiManual.Text.Ranges
import ApiManual.Text.Split
import ApiManual.Text.Table.Alphanumeric
import ApiManual.Text.Table.LetterCase
import ApiManual.Text.Table.Printable
import ApiManual.Text.Table.Word
import ApiManual.Text.Utf8
import ApiManual.Uri.Address
import ApiManual.Uri.Host
import ApiManual.Uri.Path
import ApiManual.Workspace.Basic
import ApiManual.Workspace.Path
import ApiManual.Workspace.Pattern
import ApiManual.Workspace.Selection
import ApiManual.Proofs.Annotation.Announcement
import ApiManual.Proofs.Exchange.Same
import ApiManual.Proofs.Json.Canonical
import ApiManual.Proofs.Text.LetterCase
import ApiManual.Proofs.Manual.Recording
import ApiManual.Proofs.Replay.Choice
import ApiManual.Proofs.Replay.Likeness
import ApiManual.Proofs.Replay.ExactReplay
import ApiManual.Proofs.Json.NameOrder
import ApiManual.Proofs.Json.Rereading
import ApiManual.Proofs.Manual.Rereading
import ApiManual.Proofs.Registry.Insertion
import ApiManual.Proofs.Registry.Arrangement
import ApiManual.Proofs.Replay.Reordering
import ApiManual.Proofs.Manual.Built
import ApiManual.Proofs.Replay.Reloading
import ApiManual.Proofs.Annotation.Walk
import ApiManual.Proofs.Registry.History
import ApiManual.Proofs.Registry.Identity
import ApiManual.Proofs.Registry.Companions
import ApiManual.Proofs.Registry.OwnPath
import ApiManual.Proofs.Annotation.Inlining
import ApiManual.Proofs.Text.Decimal
import ApiManual.Proofs.Json.Indented
import ApiManual.Proofs.Exchange.Storing
import ApiManual.Proofs.Archive.Naming
import ApiManual.Proofs.Archive.Recording
import ApiManual.Proofs.Workspace.Folders
import ApiManual.Proofs.Workspace.Grounded
import ApiManual.Proofs.Host.Session
import ApiManual.Proofs.Registry.Grouping
import ApiManual.Proofs.Publish.Files
import ApiManual.Proofs.Publish.Pages
import ApiManual.Proofs.Annotation.Cutting
import ApiManual.Proofs.Annotation.Seam
import ApiManual.Proofs.Annotation.LineEnds
import ApiManual.Proofs.Annotation.SourceOrder
import ApiManual.Proofs.Replay.Transparency
import ApiManual.Proofs.Registry.Routing
import ApiManual.Proofs.Registry.Stability
import ApiManual.Proofs.Exchange.Receiving
import ApiManual.Proofs.Json.Compact
import ApiManual.Proofs.Exchange.PlainMap
import ApiManual.Proofs.Annotation.Placement
import ApiManual.Proofs.Annotation.Location
import ApiManual.Proofs.Manual.Admission
import ApiManual.Proofs.Exchange.HeaderEquality
import ApiManual.Proofs.Manual.Attaching
import ApiManual.Proofs.Annotation.TokenSearch
import ApiManual.Proofs.Annotation.ApiLine
import ApiManual.Proofs.Annotation.ParamLine
import ApiManual.Proofs.Replay.Symmetry
import ApiManual.Proofs.Exchange.Collecting
import ApiManual.Proofs.Publish.Tables
import ApiManual.Proofs.Annotation.Margin
import ApiManual.Proofs.Annotation.Scanner
import ApiManual.Proofs.Registry.PathTree
import ApiManual.Proofs.Manual.Refusal
import ApiManual.Proofs.Annotation.TokenOrder
import ApiManual.Proofs.Annotation.TagGrouping
import ApiManual.Proofs.Manual.RepeatedNames
