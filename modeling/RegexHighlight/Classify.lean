import RegexHighlight.Flags
import RegexHighlight.Class
import RegexHighlight.Captures
import RegexHighlight.Note

/-!
# Classification

`classify` cuts a pattern into classified pieces. It reads the top-level tokens once, carrying
a `Context` from each token to the next and a `Classifier` state that holds the open groups, the
capture names seen so far, the pieces emitted and the notes taken.

* A group opening is an error when it is a bare `(?` or repeats an earlier capture name; it is
  still pushed, so that its `)` is matched. A `)` pops the innermost opening and is a group
  boundary when that opening was valid, and an `unbalancedRightParen` error otherwise.
  Openings still open at the end become `unbalancedLeftParen` errors.
* Group boundaries get the style depth `h % 5 + 1`, where `h` is the number of open groups
  before the opening. A quantifier right after a group's `)` takes the group's depth, and an
  alternator takes the depth of the innermost open group.
* A quantifier must follow a token that can be repeated; an interval must have bounds up to
  65535 and must not be reversed. An alternator that starts the pattern or follows another
  one adds an empty alternative.
* Decimal escapes are backreferences when the number is at most the count of capturing
  groups of the whole pattern; otherwise they are errors under the Unicode-aware rules and
  legacy octal escapes, or escaped `8` and `9`, followed by literal digits.

Classification never fails on a pattern; only the `v` flag is refused, by `classify`.
-/

namespace RegexHighlight

/-- What kind of token came before the current one. -/
inductive Previous
  /-- None: the current token is the first. -/
  | start
  | alternator
  | other
deriving DecidableEq, Repr

/-- What the previous token tells about the next one. -/
structure Context where
  /-- Whether a quantifier may follow. -/
  quantifiable : Bool
  /-- The depth of a group that was just closed, which a quantifier after it takes. -/
  groupDepth : Option Nat
  previous : Previous
deriving DecidableEq, Repr

namespace Context

/-- The context before the first token. -/
def start : Context := ⟨false, none, .start⟩

/-- The context after an ordinary token. -/
def after (quantifiable : Bool) : Context := ⟨quantifiable, none, .other⟩

end Context

/-- A group that is open. -/
structure OpenGroup where
  /-- False when the opening was reported as an error. -/
  valid : Bool
  lookaround : Bool
  /-- The position of the opening's piece among the pieces emitted. -/
  index : Nat
  depth : Nat
deriving DecidableEq, Repr

/-- The fixed facts a classification reads. -/
structure Setting where
  unicode : Bool
  captures : Captures
deriving DecidableEq, Repr

/-- The state of a classification between two tokens. -/
structure Classifier where
  /-- Capture names seen so far. -/
  names : List (List Char)
  /-- Open groups, innermost first. -/
  stack : List OpenGroup
  pieces : Array Piece
  notes : Array Note
deriving Repr

/-- The value of a run of decimal digits. -/
def decimalValue (digits : List Char) : Nat :=
  digits.foldl (fun n c => n * 10 + (c.toNat - '0'.toNat)) 0

/-- The value of a run of decimal digits read into a 32-bit word by saturating arithmetic: each
step multiplies by ten and adds a digit, and stops at `wordLimit`. -/
def parseBound (digits : List Char) : Nat :=
  digits.foldl (fun n c => min (min (n * 10) wordLimit + (c.toNat - '0'.toNat)) wordLimit) 0

/-- The largest bound an interval quantifier may use. -/
def maxIntervalBound : Nat := 65535

/-- The diagnostic of an interval quantifier whose bounds are out of order or too large;
other quantifiers have none. -/
def intervalProblem (text : List Char) : Option Diagnostic :=
  match text with
  | '{' :: rest =>
    let body := (rest.reverse.dropWhile (· = '?')).reverse
    if body.getLast? = some '}' then
      let (low, high) := match body.dropLast.span (· ≠ ',') with
        | (low, _ :: high@(_ :: _)) => (low, some high)
        | (low, _) => (low, none)
      let low := parseBound low
      let high := high.map parseBound
      if low > maxIntervalBound || high.any (fun h => decide (h > maxIntervalBound)) then
        some .intervalOverflow
      else if high.any (fun h => decide (low > h)) then some .intervalReversed
      else none
    else none
  | _ => none

/-- The name of a named backreference `\k<name>`. -/
def backreferenceName? (text : List Char) : Option (List Char) :=
  match text with
  | '\\' :: 'k' :: '<' :: rest => if rest.getLast? = some '>' then some rest.dropLast else none
  | _ => none

namespace Classifier

/-- The piece for `text` at byte `pos`. -/
def piece (pos : Nat) (text : List Char) (category : Category) : Piece :=
  ⟨⟨pos, pos + utf8Length text⟩, String.ofList text, category⟩

/-- Emits `text` at byte `pos` with a category. -/
def emit (s : Classifier) (pos : Nat) (text : List Char) (category : Category) : Classifier :=
  { s with pieces := s.pieces.push (piece pos text category) }

/-- Emits `text` at byte `pos` with a diagnostic, and notes it. -/
def report (s : Classifier) (pos : Nat) (text : List Char) (d : Diagnostic) : Classifier :=
  let p := piece pos text (.error d)
  { s with pieces := s.pieces.push p, notes := s.notes.push (.reported p.text p.span d) }

/-- Emits the first `cut` characters of `text` with a category and the rest, if any, as a
literal. -/
def emitSplit (s : Classifier) (pos : Nat) (text : List Char) (cut : Nat) (category : Category) :
    Classifier :=
  let head := text.take cut
  let tail := text.drop cut
  let s := s.emit pos head category
  if tail.isEmpty then s else s.emit (pos + utf8Length head) tail .literal

/-- A decimal escape `\N…`: a backreference, or its reading when no such group exists. -/
def decimalEscape (setting : Setting) (s : Classifier) (pos : Nat) (text : List Char) :
    Classifier × Context :=
  let digits := text.drop 1
  let number := min (decimalValue digits) wordLimit
  if number ≤ setting.captures.total then (s.emit pos text .backreference, .after true)
  else if setting.unicode then (s.report pos text .invalidBackreference, .after true)
  else if digits.head? = some '8' || digits.head? = some '9' then
    (s.emitSplit pos text 2 .escapedLiteral, .after true)
  else (s.emitSplit pos text (1 + Shape.octalExtent digits) .metasequence, .after true)

/-- An escape `\k…`: a named backreference when the pattern has named groups or the
Unicode-aware rules apply, and otherwise an escaped `k`. -/
def namedBackreference (setting : Setting) (s : Classifier) (pos : Nat) (text : List Char) :
    Classifier × Context :=
  if setting.captures.hasNames then
    match backreferenceName? text with
    | some name =>
      if setting.captures.names.contains name then (s.emit pos text .backreference, .after true)
      else (s.report pos text .invalidBackreference, .after true)
    | none => (s.report pos text .incompleteToken, .after false)
  else if setting.unicode then (s.report pos text .invalidBackreference, .after true)
  else (s.emitSplit pos text 2 .escapedLiteral, .after true)

/-- An escape token. -/
def escape (setting : Setting) (s : Classifier) (pos : Nat) (text : List Char) :
    Classifier × Context :=
  match text with
  | _ :: c :: _ =>
    let unicode := setting.unicode
    if '1' ≤ c && c ≤ '9' then decimalEscape setting s pos text
    else if c = 'k' then namedBackreference setting s pos text
    else if (c = 'p' || c = 'P') && unicode then
      if text.length = 2 then (s.report pos text .incompleteToken, .after false)
      else (s.emit pos text .metasequence, .after true)
    else if c = 'b' || c = 'B' then (s.emit pos text .metasequence, .after false)
    else if (c = 'c' || c = 'x' || c = 'u') && text.length = 2 then
      (s.report pos text .incompleteToken, .after false)
    else if c = 'u' && (codePoint unicode text).isNone then
      (s.report pos text .invalidEscape, .after true)
    else if c = '0' && unicode && text.length > 2 then
      (s.report pos text .invalidEscape, .after true)
    else if c ∈ ['d', 'D', 's', 'S', 'w', 'W', 'f', 'n', 'r', 't', 'v', '0', 'c', 'x', 'u'] then
      (s.emit pos text .metasequence, .after true)
    else if unicode && !Shape.isSyntaxChar c && c ≠ '/' then
      (s.report pos text .invalidEscape, .after true)
    else (s.emit pos text .escapedLiteral, .after true)
  | _ => (s.report pos text .incompleteToken, .after false)

/-- A group opening. -/
def groupOpen (s : Classifier) (pos : Nat) (text : List Char) : Classifier × Context :=
  let depth := s.stack.length % 5 + 1
  let index := s.pieces.size
  let lookaround := Opening.isLookaround text
  let (s, valid) :=
    if text = ['(', '?'] then (s.report pos text .invalidGroupType, false)
    else
      match Opening.captureName? text with
      | some name =>
        if s.names.contains name then (s.report pos text .duplicateCaptureName, false)
        else ({ s with names := name :: s.names }.emit pos text (.group depth), true)
      | none => (s.emit pos text (.group depth), true)
  ({ s with stack := ⟨valid, lookaround, index, depth⟩ :: s.stack }, .after false)

/-- A group closing. -/
def groupClose (s : Classifier) (pos : Nat) (text : List Char) : Classifier × Context :=
  match s.stack with
  | g :: rest =>
    let s := { s with stack := rest }
    if g.valid then (s.emit pos text (.group g.depth), ⟨!g.lookaround, some g.depth, .other⟩)
    else (s.report pos text .unbalancedRightParen, .after false)
  | [] => (s.report pos text .unbalancedRightParen, .after false)

/-- A quantifier token. -/
def quantifier (s : Classifier) (ctx : Context) (pos : Nat) (text : List Char) :
    Classifier × Context :=
  if !ctx.quantifiable then (s.report pos text .unquantifiable, .after false)
  else
    match intervalProblem text with
    | some d => (s.report pos text d, .after false)
    | none => (s.emit pos text (.quantifier (ctx.groupDepth.getD 0)), .after false)

/-- An alternator. -/
def alternator (s : Classifier) (ctx : Context) (pos : Nat) (text : List Char) :
    Classifier × Context :=
  let s :=
    if ctx.previous = .start || ctx.previous = .alternator then
      s.report pos text .emptyAlternative
    else s.emit pos text (.alternator ((s.stack.head?.map (·.depth)).getD 0))
  (s, ⟨false, none, .alternator⟩)

/-- A whole character class. -/
def charClass (setting : Setting) (s : Classifier) (pos : Nat) (text : List Char) :
    Classifier × Context :=
  let note := Note.classRead (String.ofList text) (ClassParts.ofText text).closed
  ({ s with
      notes := s.notes.push note
      pieces := s.pieces ++ (CharClass.pieces setting.unicode pos text).toArray },
    .after true)

/-- Classifies one token that starts at byte `pos`. -/
def step (setting : Setting) (s : Classifier) (ctx : Context) (pos : Nat) (t : Token) :
    Classifier × Context :=
  match t.kind with
  | .charClass => charClass setting s pos t.text
  | .groupOpen => groupOpen s pos t.text
  | .groupClose => groupClose s pos t.text
  | .escape => escape setting s pos t.text
  | .quantifier => quantifier s ctx pos t.text
  | .anchor => (s.emit pos t.text .metasequence, .after false)
  | .alternator => alternator s ctx pos t.text
  | .dot => (s.emit pos t.text .metasequence, .after true)
  | .literal => (s.emit pos t.text .literal, .after true)
  | .char =>
    if setting.unicode then (s.report pos t.text .requiresEscape, .after true)
    else (s.emit pos t.text .literal, .after true)

/-- Classifies the tokens `ts`, the first of which starts at byte `pos`. -/
def run (setting : Setting) : Classifier → Context → Nat → List Token → Classifier
  | s, _, _, [] => s
  | s, ctx, pos, t :: ts =>
    let (s, ctx) := s.step setting ctx pos t
    run setting s ctx (pos + utf8Length t.text) ts

/-- Reports one group left open, unless its opening was already reported. -/
def closeOpen (s : Classifier) (g : OpenGroup) : Classifier :=
  if g.valid then
    match s.pieces[g.index]? with
    | some p =>
      { s with
          pieces := s.pieces.set! g.index { p with category := .error .unbalancedLeftParen }
          notes := s.notes.push (.unclosedGroup p.text p.span) }
    | none => s
  else s

/-- Reports every group left open, outermost first. -/
def finish (s : Classifier) : Classifier :=
  s.stack.reverse.foldl closeOpen { s with stack := [] }

end Classifier

/-- The pieces of a pattern and the notes taken while classifying it. -/
structure Classification where
  pieces : Array Piece
  notes : Array Note
deriving Repr

/-- Classifies a pattern under a mode; the `v` flag is not looked at. -/
def Classification.of (mode : Mode) (pattern : String) : Classification :=
  let unicode := mode.unicodeAware
  let tokens := tokenize unicode pattern.toList
  let captures := Captures.ofTokens tokens
  let start : Classifier := ⟨[], [], #[], #[.started pattern mode.flags captures.total]⟩
  let s := (Classifier.run ⟨unicode, captures⟩ start .start 0 tokens).finish
  ⟨s.pieces, s.notes⟩

/-- The classified pieces of a pattern, in order. Only the unsupported `v` flag fails. -/
def classify (pattern : String) (mode : Mode) : Except FlagError (List Piece) :=
  if mode.unicodeSets then .error ⟨.unsupported 'v', mode.flags⟩
  else .ok (Classification.of mode pattern).pieces.toList

/-- Reads a flag string and classifies a pattern under the mode it asks for. -/
def classifyWithFlags (pattern flags : String) : Except FlagError (List Piece) := do
  let mode ← Mode.parse flags
  classify pattern mode

end RegexHighlight
