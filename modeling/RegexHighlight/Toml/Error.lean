import RegexHighlight.Toml.Parser
import RegexHighlight.Text.Utf8

/-!
# Reporting TOML problems

A problem with a document is shown with the line it is on: a header giving its line and
column, the line itself under a gutter with its number, a row of carets under the range the
problem is about, and the message. Columns count characters, except when the problem starts
inside a multi-byte character, where they count bytes.
-/

namespace RegexHighlight.Toml

/-- A problem with a document, the range of the source it is about, and the keys leading to
the value it concerns. -/
structure Error where
  span : Option Range
  message : String
  keys : List String := []
deriving DecidableEq, Repr

/-- Points a problem at `span` when it points nowhere yet. -/
def Error.within (e : Error) (span : Option Range) : Error :=
  match e.span with
  | some _ => e
  | none => { e with span }

/-- Notes that a problem was found under `key`. -/
def Error.under (e : Error) (key : String) : Error := { e with keys := key :: e.keys }

/-- The error of a failed parse: the character it failed at, or the end of the input. -/
def Problem.toError (source : String) (p : Problem) : Error :=
  let span := if p.offset = source.utf8ByteSize then ⟨p.offset, p.offset⟩
    else ⟨p.offset, p.offset + 1⟩
  { span := some span, message := p.message }

/-- The line and column, from zero, of a byte offset. -/
def position (bytes : List UInt8) (index : Nat) : Nat × Nat :=
  if bytes.isEmpty then (0, index)
  else
    let safe := min index (bytes.length - 1)
    let beyond := index - safe
    let lineStart := match ((bytes.take safe).reverse.findIdx? (· = 10)) with
      | some k => safe - k
      | none => 0
    let line := (bytes.take lineStart).count 10
    let slice := (bytes.drop lineStart).take (safe - lineStart + 1)
    let column := match Utf8.decode slice with
      | .ok s => s.length - 1
      | .error _ => safe - lineStart
    (line, column + beyond)

/-- Spaces. -/
def blanks (n : Nat) : String := String.ofList (List.replicate n ' ')

/-- How a problem with the document `source` is shown. -/
def Error.render (source : String) (e : Error) : String :=
  match e.span with
  | some span =>
    let (line, column) := position source.toUTF8.toList span.start
    let number := line + 1
    let gutter := blanks ((toString number).length + 1)
    let content := ((source.splitOn "\n")[line]?).getD ""
    let carets := min span.stop (span.start + content.utf8ByteSize) - (span.start + 1)
    s!"TOML parse error at line {number}, column {column + 1}\n" ++
      gutter ++ "|\n" ++
      toString number ++ " | " ++ content ++ "\n" ++
      gutter ++ "|" ++ blanks (column + 1) ++ "^" ++ String.ofList (List.replicate carets '^') ++
        "\n" ++
      e.message ++ "\n"
  | none =>
    e.message ++ "\n" ++
      (if e.keys.isEmpty then "" else "in \x60" ++ ".".intercalate e.keys ++ "\x60\n")

end RegexHighlight.Toml
