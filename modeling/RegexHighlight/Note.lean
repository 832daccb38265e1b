import RegexHighlight.Span

/-!
# Notes on classification

Classification can be followed step by step: it records a `Note` when it starts, when it
reports a diagnostic on a token, when it reads a character class, and for every group left
open at the end. A command line tool shows these notes as log records; the pieces of a pattern
do not depend on them.
-/

namespace RegexHighlight

/-- One step of a classification worth reporting. -/
inductive Note
  /-- Classification of `pattern` starts under the flag string `flags`, with `groups`
  capturing groups in the pattern. -/
  | started (pattern : String) (flags : String) (groups : Nat)
  /-- The token `text` at `span` gets a diagnostic. -/
  | reported (text : String) (span : Span) (diagnostic : Diagnostic)
  /-- The group opened by `text` at `span` is never closed. -/
  | unclosedGroup (text : String) (span : Span)
  /-- The character class `text` is read; `closed` says whether it has its `]`. -/
  | classRead (text : String) (closed : Bool)
deriving DecidableEq, Repr

end RegexHighlight
