import FontCatalog.Cli.Arguments
import FontCatalog.Cli.Run
import FontCatalog.Config
import FontCatalog.Discovery
import FontCatalog.Document
import FontCatalog.Files.Path
import FontCatalog.Files.Tree
import FontCatalog.Handles
import FontCatalog.Json.Decode
import FontCatalog.Json.Path
import FontCatalog.Json.Scan
import FontCatalog.Json.Value
import FontCatalog.Log.Entry
import FontCatalog.Log.Filter
import FontCatalog.Main
import FontCatalog.Number.Binary
import FontCatalog.Number.Digits
import FontCatalog.Number.Shortest
import FontCatalog.Number.Single
import FontCatalog.Output.Json
import FontCatalog.Output.Text
import FontCatalog.Pattern.ByteForms
import FontCatalog.Pattern.Compile
import FontCatalog.Pattern.Expr
import FontCatalog.Pattern.Lexical
import FontCatalog.Pattern.Named
import FontCatalog.Pattern.Program
import FontCatalog.Pattern.Reader
import FontCatalog.Pattern.Simplify
import FontCatalog.Pattern.Size
import FontCatalog.Proofs.Cli.Listing
import FontCatalog.Proofs.Cli.Refusal
import FontCatalog.Proofs.Cli.Unlisted
import FontCatalog.Proofs.Config
import FontCatalog.Proofs.Discovery.Exact
import FontCatalog.Proofs.Discovery.FontNames
import FontCatalog.Proofs.Discovery.Found
import FontCatalog.Proofs.Document.Agreement
import FontCatalog.Proofs.Document.Bounds
import FontCatalog.Proofs.Document.Breakdown
import FontCatalog.Proofs.Document.Characters
import FontCatalog.Proofs.Document.Loading
import FontCatalog.Proofs.Document.Navigation
import FontCatalog.Proofs.Document.Reordered
import FontCatalog.Proofs.Document.Representation
import FontCatalog.Proofs.Document.Shape
import FontCatalog.Proofs.Document.Table
import FontCatalog.Proofs.Files.Building
import FontCatalog.Proofs.Files.Components
import FontCatalog.Proofs.Files.Links
import FontCatalog.Proofs.Files.Order
import FontCatalog.Proofs.Files.Ways
import FontCatalog.Proofs.FontSet.Entries
import FontCatalog.Proofs.FontSet.RoundTrip
import FontCatalog.Proofs.Handles.Contract
import FontCatalog.Proofs.Handles.Given
import FontCatalog.Proofs.Handles.Refinement
import FontCatalog.Proofs.Handles.Texts
import FontCatalog.Proofs.Handles.Trace
import FontCatalog.Proofs.Json.Floats
import FontCatalog.Proofs.Json.Forms
import FontCatalog.Proofs.Json.Grammar
import FontCatalog.Proofs.Json.Numerals
import FontCatalog.Proofs.Json.OneLine
import FontCatalog.Proofs.Json.Scalars
import FontCatalog.Proofs.Json.Singles
import FontCatalog.Proofs.Json.Strings
import FontCatalog.Proofs.Json.Structures
import FontCatalog.Proofs.Number.Bits
import FontCatalog.Proofs.Number.Decimal
import FontCatalog.Proofs.Number.Fixed
import FontCatalog.Proofs.Number.Grammar
import FontCatalog.Proofs.Number.Rounding
import FontCatalog.Proofs.Number.Separation
import FontCatalog.Proofs.Number.Shortest
import FontCatalog.Proofs.Number.Spelling
import FontCatalog.Proofs.Output.Columns
import FontCatalog.Proofs.Output.Failing
import FontCatalog.Proofs.Output.Lines
import FontCatalog.Proofs.Output.RoundTrip
import FontCatalog.Proofs.Output.Rows
import FontCatalog.Proofs.Output.Stub
import FontCatalog.Proofs.Query.Building
import FontCatalog.Proofs.Query.Conditions
import FontCatalog.Proofs.Record.Fields
import FontCatalog.Proofs.Record.Paths
import FontCatalog.Proofs.Record.RoundTrip
import FontCatalog.Proofs.Record.Texts
import FontCatalog.Proofs.Results
import FontCatalog.Proofs.Session.Actions
import FontCatalog.Proofs.Session.Sharing
import FontCatalog.Proofs.Slots
import FontCatalog.Proofs.Tag
import FontCatalog.Proofs.Tag.Codec
import FontCatalog.Proofs.Tag.Grammar
import FontCatalog.Proofs.Text.Lossy
import FontCatalog.Proofs.Text.Sequences
import FontCatalog.Proofs.Text.Trim
import FontCatalog.Proofs.Text.Utf8
import FontCatalog.Proofs.Walk.Abreast
import FontCatalog.Proofs.Walk.Checks
import FontCatalog.Proofs.Walk.Fonts
import FontCatalog.Proofs.Walk.Log
import FontCatalog.Proofs.Walk.Progress
import FontCatalog.Proofs.Walk.Reordered
import FontCatalog.Proofs.Walk.Results
import FontCatalog.Proofs.Walk.Trees
import FontCatalog.Proofs.WeightRange
import FontCatalog.Proofs.Xml.Addresses
import FontCatalog.Proofs.Xml.Attributes
import FontCatalog.Proofs.Xml.Balance
import FontCatalog.Proofs.Xml.Characters
import FontCatalog.Proofs.Xml.Counted
import FontCatalog.Proofs.Xml.Legal
import FontCatalog.Proofs.Xml.Namespaces
import FontCatalog.Proofs.Xml.Print
import FontCatalog.Proofs.Xml.Reordered
import FontCatalog.Proofs.Xml.RoundTrip
import FontCatalog.Proofs.Xml.Scan
import FontCatalog.Proofs.Xml.Values
import FontCatalog.Query
import FontCatalog.Record
import FontCatalog.Session
import FontCatalog.Tag
import FontCatalog.Text.Blank
import FontCatalog.Text.Cut
import FontCatalog.Text.Quoted
import FontCatalog.Text.Utf8
import FontCatalog.Unicode.Age
import FontCatalog.Unicode.Break
import FontCatalog.Unicode.CaseFold
import FontCatalog.Unicode.Category
import FontCatalog.Unicode.Later
import FontCatalog.Unicode.Property
import FontCatalog.Unicode.Ranges
import FontCatalog.Unicode.Script
import FontCatalog.Walk
import FontCatalog.WeightRange
import FontCatalog.Xml.Assemble
import FontCatalog.Xml.Chars
import FontCatalog.Xml.Doctype
import FontCatalog.Xml.Expand
import FontCatalog.Xml.Token
import FontCatalog.Xml.Tree
