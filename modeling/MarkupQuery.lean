import MarkupQuery.Css.Element
import MarkupQuery.Css.Language
import MarkupQuery.Css.Matching
import MarkupQuery.Css.Range
import MarkupQuery.Css.Reader
import MarkupQuery.Css.Selector
import MarkupQuery.Css.State
import MarkupQuery.Css.Token
import MarkupQuery.Extraction.Config
import MarkupQuery.Extraction.Extractor
import MarkupQuery.Extraction.Record
import MarkupQuery.Fault
import MarkupQuery.Files.Disk
import MarkupQuery.Files.Path
import MarkupQuery.Json.Field
import MarkupQuery.Json.Members
import MarkupQuery.Json.Reader
import MarkupQuery.Json.Token
import MarkupQuery.Json.Value
import MarkupQuery.Json.Writer
import MarkupQuery.Loader.Configs
import MarkupQuery.Loader.Session
import MarkupQuery.Logging
import MarkupQuery.Markup.Assembly
import MarkupQuery.Markup.Builder
import MarkupQuery.Markup.Charset
import MarkupQuery.Markup.Completion
import MarkupQuery.Markup.Content
import MarkupQuery.Markup.Engine
import MarkupQuery.Markup.Entity
import MarkupQuery.Markup.Namespace
import MarkupQuery.Markup.Reference
import MarkupQuery.Markup.Tidy
import MarkupQuery.Markup.Token
import MarkupQuery.Markup.Token.Completing
import MarkupQuery.Markup.Token.Exact
import MarkupQuery.Markup.Token.Xml
import MarkupQuery.Markup.Tree
import MarkupQuery.Markup.Written
import MarkupQuery.Nodes.Node
import MarkupQuery.Nodes.NodeSet
import MarkupQuery.Nodes.Probe
import MarkupQuery.Nodes.Query
import MarkupQuery.Nodes.Traversal
import MarkupQuery.Nodes.Value
import MarkupQuery.Number.Binary
import MarkupQuery.Number.Floating
import MarkupQuery.Number.Integer
import MarkupQuery.Proofs.Css.Compound
import MarkupQuery.Proofs.Css.Continuation
import MarkupQuery.Proofs.Css.Flat
import MarkupQuery.Proofs.Css.Grouped
import MarkupQuery.Proofs.Css.Lexical
import MarkupQuery.Proofs.Css.Plain
import MarkupQuery.Proofs.Css.Scoped
import MarkupQuery.Proofs.Css.Steady
import MarkupQuery.Proofs.Css.Yields
import MarkupQuery.Proofs.Extraction.Members
import MarkupQuery.Proofs.Extraction.Provenance
import MarkupQuery.Proofs.Extraction.Reference
import MarkupQuery.Proofs.Extraction.Stored
import MarkupQuery.Proofs.Files.Disk
import MarkupQuery.Proofs.Json.Field
import MarkupQuery.Proofs.Json.Members
import MarkupQuery.Proofs.Json.RoundTrip
import MarkupQuery.Proofs.Loader.Failure
import MarkupQuery.Proofs.Loader.Latest
import MarkupQuery.Proofs.Loader.Scene
import MarkupQuery.Proofs.Loader.Session
import MarkupQuery.Proofs.Loader.Settings
import MarkupQuery.Proofs.Loader.Store
import MarkupQuery.Proofs.Loader.Validity
import MarkupQuery.Proofs.Nodes.Above
import MarkupQuery.Proofs.Nodes.Argument
import MarkupQuery.Proofs.Nodes.Canonical
import MarkupQuery.Proofs.Nodes.Combinators
import MarkupQuery.Proofs.Nodes.Direction
import MarkupQuery.Proofs.Nodes.Faults
import MarkupQuery.Proofs.Nodes.Filtered
import MarkupQuery.Proofs.Nodes.Grouped
import MarkupQuery.Proofs.Nodes.Home
import MarkupQuery.Proofs.Nodes.Interchange
import MarkupQuery.Proofs.Nodes.Kinship
import MarkupQuery.Proofs.Nodes.Locality
import MarkupQuery.Proofs.Nodes.Membership
import MarkupQuery.Proofs.Nodes.Nearest
import MarkupQuery.Proofs.Nodes.Places
import MarkupQuery.Proofs.Nodes.Preorder
import MarkupQuery.Proofs.Nodes.Restriction
import MarkupQuery.Proofs.Number.Integer
import MarkupQuery.Proofs.Pseudo.Additivity
import MarkupQuery.Proofs.Pseudo.Attribution
import MarkupQuery.Proofs.Pseudo.Calls
import MarkupQuery.Proofs.Pseudo.Children
import MarkupQuery.Proofs.Pseudo.Composition
import MarkupQuery.Proofs.Pseudo.Conservative
import MarkupQuery.Proofs.Pseudo.Direction
import MarkupQuery.Proofs.Pseudo.Indexed
import MarkupQuery.Proofs.Pseudo.Locality
import MarkupQuery.Proofs.Pseudo.Native
import MarkupQuery.Proofs.Pseudo.Suffix
import MarkupQuery.Proofs.Pseudo.Surface
import MarkupQuery.Proofs.Pseudo.Wrapped
import MarkupQuery.Proofs.Schema.Check
import MarkupQuery.Proofs.Schema.Extraction
import MarkupQuery.Proofs.Selector.Call
import MarkupQuery.Proofs.Selector.Grammar
import MarkupQuery.Proofs.Selector.Layout
import MarkupQuery.Proofs.Selector.Offence
import MarkupQuery.Proofs.Selector.Parts
import MarkupQuery.Proofs.Selector.Protection
import MarkupQuery.Proofs.Selector.Refusal
import MarkupQuery.Proofs.Selector.RoundTrip
import MarkupQuery.Proofs.Selector.Spelling
import MarkupQuery.Proofs.Settings
import MarkupQuery.Proofs.Text.Blank
import MarkupQuery.Proofs.Text.Digit
import MarkupQuery.Proofs.Text.Escape
import MarkupQuery.Proofs.Text.Reading
import MarkupQuery.Proofs.Trace
import MarkupQuery.Pseudo.Evaluation
import MarkupQuery.Pseudo.Handler
import MarkupQuery.Pseudo.Operation
import MarkupQuery.Pseudo.Registry
import MarkupQuery.Release
import MarkupQuery.Schema.Basic
import MarkupQuery.Schema.Check
import MarkupQuery.Schema.Files
import MarkupQuery.Selector.Call
import MarkupQuery.Selector.Lexeme
import MarkupQuery.Selector.Segment
import MarkupQuery.Settings
import MarkupQuery.Text.Blank
import MarkupQuery.Text.Case
import MarkupQuery.Text.Digit
import MarkupQuery.Text.Direction
import MarkupQuery.Text.Letter
import MarkupQuery.Text.Order
import MarkupQuery.Text.Quoted
import MarkupQuery.Text.Reading
import MarkupQuery.Text.Visible
import MarkupQuery.Trace
