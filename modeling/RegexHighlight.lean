import RegexHighlight.Text.Utf8
import RegexHighlight.Text.Ranges
import RegexHighlight.Text.Printable
import RegexHighlight.Text.GraphemeExtend
import RegexHighlight.Text.Width
import RegexHighlight.Text.Quoted
import RegexHighlight.Flags
import RegexHighlight.Span
import RegexHighlight.Token.Shape
import RegexHighlight.Token
import RegexHighlight.Class.Token
import RegexHighlight.Class.CodePoint
import RegexHighlight.Class
import RegexHighlight.Captures
import RegexHighlight.Note
import RegexHighlight.Classify
import RegexHighlight.Tiling
import RegexHighlight.Binary64
import RegexHighlight.Fuzz.Unstructured
import RegexHighlight.Fuzz
import RegexHighlight.Text.Wrap
import RegexHighlight.Log
import RegexHighlight.Workspace
import RegexHighlight.Render.ClassTrack
import RegexHighlight.Render.Html
import RegexHighlight.Render.Ansi
import RegexHighlight.Render.Columns
import RegexHighlight.Cli.Argv
import RegexHighlight.Failure
import RegexHighlight.Cli.Usage
import RegexHighlight.Cli.Options
import RegexHighlight.Cli.Run
import RegexHighlight.Toml.Node
import RegexHighlight.Toml.Parser
import RegexHighlight.Toml.Scan
import RegexHighlight.Toml.Number
import RegexHighlight.Toml.Value
import RegexHighlight.Toml.Document
import RegexHighlight.Toml.Error
import RegexHighlight.Suite.Test
import RegexHighlight.Suite.Decode
import RegexHighlight.Text.Trim
import RegexHighlight.Suite.Collection
import RegexHighlight.Suite.Runner
import RegexHighlight.Suite.Data
import RegexHighlight.Suite.Repository
import RegexHighlight.Main
import RegexHighlight.Proofs.Layout
import RegexHighlight.Proofs.Classifier
import RegexHighlight.Proofs.Step
import RegexHighlight.Proofs.Coverage
import RegexHighlight.Proofs.Groups
import RegexHighlight.Proofs.Lexer
import RegexHighlight.Proofs.Safety
import RegexHighlight.Proofs.Backreferences
import RegexHighlight.Proofs.Modes
import RegexHighlight.Proofs.ClassTracking
import RegexHighlight.Proofs.Loading
import RegexHighlight.Proofs.ClassRanges
import RegexHighlight.Proofs.Nesting
import RegexHighlight.Proofs.Depths
import RegexHighlight.Proofs.Quantifiers
import RegexHighlight.Proofs.EscapeFallbacks
import RegexHighlight.Proofs.FlagStrings
import RegexHighlight.Proofs.TestFilters
import RegexHighlight.Proofs.Markup
import RegexHighlight.Proofs.HtmlRender
import RegexHighlight.Proofs.UnicodeEscapes
import RegexHighlight.Proofs.CodePoints
import RegexHighlight.Proofs.SpecialChars
