import RegexHighlight.Text.Utf8

/-!
# Spans, categories and diagnostics

Classification cuts a pattern into `Piece`s: a `Span` of byte offsets, the text it covers and
its `Category`. Categories name what a piece is (a literal, a group boundary, a quantifier, …)
or, as `Category.error`, the `Diagnostic` found there. Group boundaries, and the quantifiers and
alternators that belong to a group, carry a style depth that cycles through 1 to 5 as groups
nest; a depth of 0 means "outside any group".
-/

namespace RegexHighlight

/-- A half-open range of byte offsets into a pattern. -/
structure Span where
  start : Nat
  stop : Nat
deriving DecidableEq, Repr

namespace Span

/-- The number of bytes a span covers. -/
def length (s : Span) : Nat := s.stop - s.start

/-- Whether a span covers no bytes. -/
def isEmpty (s : Span) : Bool := s.start == s.stop

/-- The debugging form of a span, `Span { start: s, end: e }`. -/
def describe (s : Span) : String :=
  s!"Span \x7b start: {s.start}, end: {s.stop} \x7d"

end Span

/-- A problem found in a piece of a pattern. -/
inductive Diagnostic
  /-- A character class without its closing bracket, e.g. `[a`. -/
  | unclosedClass
  /-- A token missing the parts that complete it, e.g. `\x` or `\c`. -/
  | incompleteToken
  /-- A reversed range, or a range with a class endpoint, e.g. `[z-a]`. -/
  | invalidRange
  /-- A group opening that is no known group type, e.g. `(?`. -/
  | invalidGroupType
  /-- A group opening that is never closed, e.g. `(a`. -/
  | unbalancedLeftParen
  /-- A group closing without an opening, e.g. `a)`. -/
  | unbalancedRightParen
  /-- An interval bound above 65535, e.g. `a{0,65536}`. -/
  | intervalOverflow
  /-- An interval whose minimum exceeds its maximum, e.g. `a{5,3}`. -/
  | intervalReversed
  /-- A quantifier that follows nothing repeatable, e.g. `^*`. -/
  | unquantifiable
  /-- An empty alternative that cuts the pattern short, e.g. `|a`. -/
  | emptyAlternative
  /-- A capture name used by an earlier group. -/
  | duplicateCaptureName
  /-- A backreference to a group that does not exist. -/
  | invalidBackreference
  /-- An escape the mode forbids. -/
  | invalidEscape
  /-- A character that must be escaped in the mode, e.g. `]` under `u`. -/
  | requiresEscape
deriving DecidableEq, Repr

namespace Diagnostic

/-- The short, stable name of a diagnostic. -/
def name : Diagnostic → String
  | .unclosedClass => "unclosed-class"
  | .incompleteToken => "incomplete-token"
  | .invalidRange => "invalid-range"
  | .invalidGroupType => "invalid-group-type"
  | .unbalancedLeftParen => "unbalanced-left-paren"
  | .unbalancedRightParen => "unbalanced-right-paren"
  | .intervalOverflow => "interval-overflow"
  | .intervalReversed => "interval-reversed"
  | .unquantifiable => "unquantifiable"
  | .emptyAlternative => "empty-alternative"
  | .duplicateCaptureName => "duplicate-capture-name"
  | .invalidBackreference => "invalid-backreference"
  | .invalidEscape => "invalid-escape"
  | .requiresEscape => "requires-escape"

/-- The description of a diagnostic shown next to the text it is attached to. -/
def message : Diagnostic → String
  | .unclosedClass => "Unclosed character class"
  | .incompleteToken => "Incomplete regex token"
  | .invalidRange => "Reversed or invalid range"
  | .invalidGroupType => "Invalid or unsupported group type"
  | .unbalancedLeftParen => "Unclosed grouping"
  | .unbalancedRightParen => "No matching opening parenthesis"
  | .intervalOverflow => "Interval quantifier cannot use value over 65,535"
  | .intervalReversed => "Interval quantifier range is reversed"
  | .unquantifiable => "Quantifiers must be preceded by a token that can be repeated"
  | .emptyAlternative => "Empty alternative effectively truncates the regex here"
  | .duplicateCaptureName => "Duplicate capture name"
  | .invalidBackreference => "Backreference to a missing or invalid group"
  | .invalidEscape => "Invalid escape"
  | .requiresEscape => "Must be escaped unless part of a valid token"

end Diagnostic

/-- What a piece of a pattern is. -/
inductive Category
  /-- Text that matches itself. -/
  | literal
  /-- An escaped character that matches itself, e.g. `\.`. -/
  | escapedLiteral
  /-- A token with a special meaning, e.g. `\d`, `.`, `^` or `\x41`. -/
  | metasequence
  /-- A numbered or named backreference, e.g. `\1` or `\k<name>`. -/
  | backreference
  /-- A group opening or closing, with its style depth. -/
  | group (depth : Nat)
  /-- A quantifier, with the depth of the group it repeats or 0. -/
  | quantifier (depth : Nat)
  /-- An alternator, with the depth of its enclosing group or 0. -/
  | alternator (depth : Nat)
  /-- The opening or closing bracket of a character class. -/
  | classBoundary
  /-- Literal text inside a character class. -/
  | classBody
  /-- A hyphen forming a range inside a character class. -/
  | rangeHyphen
  /-- Malformed, ambiguous or unsupported syntax. -/
  | error (diagnostic : Diagnostic)
deriving DecidableEq, Repr

namespace Category

/-- The short, stable name of a category, e.g. `group-2` or `error:invalid-range`. -/
def name : Category → String
  | .literal => "literal"
  | .escapedLiteral => "escaped-literal"
  | .metasequence => "metasequence"
  | .backreference => "backreference"
  | .group d => s!"group-{d}"
  | .quantifier d => s!"quantifier-{d}"
  | .alternator d => s!"alternator-{d}"
  | .classBoundary => "class-boundary"
  | .classBody => "class-body"
  | .rangeHyphen => "range-hyphen"
  | .error d => "error:" ++ d.name

/-- The diagnostic of an error category. -/
def diagnostic? : Category → Option Diagnostic
  | .error d => some d
  | _ => none

/-- The style depth of a group, quantifier or alternator. -/
def depth? : Category → Option Nat
  | .group d => some d
  | .quantifier d => some d
  | .alternator d => some d
  | _ => none

end Category

/-- A classified piece of a pattern. -/
structure Piece where
  span : Span
  text : String
  category : Category
deriving DecidableEq, Repr

namespace Piece

/-- The diagnostic attached to a piece, if it is an error. -/
def diagnostic? (p : Piece) : Option Diagnostic := p.category.diagnostic?

/-- Whether a piece carries a diagnostic. -/
def isError (p : Piece) : Bool := p.category.diagnostic?.isSome

/-- Pieces for consecutive texts with their categories, the first starting at byte `start`. -/
def layout : Nat → List (List Char × Category) → List Piece
  | _, [] => []
  | start, (text, category) :: rest =>
    ⟨⟨start, start + utf8Length text⟩, String.ofList text, category⟩ ::
      layout (start + utf8Length text) rest

end Piece

end RegexHighlight
