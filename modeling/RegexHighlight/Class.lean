import RegexHighlight.Class.Token
import RegexHighlight.Class.CodePoint
import RegexHighlight.Span

/-!
# Classifying a character class

A class token becomes its opening (a class boundary, or an `unclosedClass` error when the class
is never closed), one piece per interior token, and the closing boundary when there is one.

Interior tokens are read left to right with a `RangeContext`: whether the previous token may
start a range, what it was, and the code point it stands for. A hyphen forms a range when the
token before it may start one and some token follows it; the range is invalid when an endpoint
is a class escape (such as `\d`) or when both endpoints have code points and they are reversed.
Any other hyphen is a plain class character. A token that ends a range cannot start the next
one, except a run of several characters, whose last character is free to.
-/

namespace RegexHighlight

/-- What the previous class token was, as far as ranges care. -/
inductive RangeLast
  | none
  | rangeHyphen
  /-- A class escape such as `\d`, or a property escape `\p{…}`. -/
  | shorthand
deriving DecidableEq, Repr

/-- The state carried from one class token to the next. -/
structure RangeContext where
  /-- Whether the previous token may start a range. -/
  rangeable : Bool
  last : RangeLast
  /-- The code point of the previous token, when it stands for exactly one. -/
  code : Option Nat
deriving DecidableEq, Repr

namespace RangeContext

/-- The context before the first interior token. -/
def start : RangeContext := ⟨false, .none, none⟩

/-- The context after a single token: it may start a range unless it ended one itself. -/
def after (ctx : RangeContext) (last : RangeLast) (code : Option Nat) : RangeContext :=
  ⟨ctx.last != .rangeHyphen, last, code⟩

end RangeContext

namespace ClassToken

/-- Escapes that miss the parts that complete them, the lone backslash included. -/
def isIncomplete (unicode : Bool) (text : List Char) : Bool :=
  text = ['\\'] || text = ['\\', 'c'] || text = ['\\', 'x'] || text = ['\\', 'u'] ||
    (unicode && (text = ['\\', 'p'] || text = ['\\', 'P']))

/-- Escapes that match more than one character, and so never end a range. -/
def isClassEscape (unicode : Bool) (text : List Char) : Bool :=
  text = ['\\', 'd'] || text = ['\\', 'D'] || text = ['\\', 's'] || text = ['\\', 'S'] ||
    text = ['\\', 'w'] || text = ['\\', 'W'] ||
    (unicode && (text.take 3 = ['\\', 'p', '{'] || text.take 3 = ['\\', 'P', '{']))

/-- Whether a complete class escape other than a class escape is allowed under the
Unicode-aware rules: `\0` alone, the control escapes, `\cX`, `\x…`, a valid `\u…`, `\-`, `\/`
and escaped syntax characters. -/
def isUnicodeEscape (text : List Char) : Bool :=
  match text with
  | '\\' :: first :: rest =>
    if first = '0' then rest.isEmpty
    else if '1' ≤ first && first ≤ '9' then false
    else if first ∈ ['b', 'f', 'n', 'r', 't', 'v', 'c', 'x'] then true
    else if first = 'u' then (codePoint true text).isSome
    else if first = '-' || first = '/' then true
    else Shape.isSyntaxChar first
  | ['\\'] => false
  | _ => true

end ClassToken

namespace CharClass

/-- The category of a literal run, and the context after it. -/
def literal (ctx : RangeContext) (text : List Char) : Category × RangeContext :=
  (.classBody, ⟨text.length ≥ 2 || ctx.last != .rangeHyphen, .none, text.getLast?.map Char.toNat⟩)

/-- The category of a hyphen followed by `next`, and the context after it. -/
def hyphen (unicode : Bool) (ctx : RangeContext) (next : Option ClassToken) :
    Category × RangeContext :=
  let plain := (Category.classBody, ctx.after .none (some '-'.toNat))
  if !ctx.rangeable then plain
  else
    match next with
    | none => plain
    | some n =>
      let reversed := match ctx.code, codePoint unicode n.text with
        | some lo, some hi => decide (lo > hi)
        | _, _ => false
      let invalid := reversed || ctx.last == .shorthand || ClassToken.isClassEscape unicode n.text
      (if invalid then .error .invalidRange else .rangeHyphen, ⟨false, .rangeHyphen, none⟩)

/-- The category of an escape, and the context after it. -/
def escape (unicode : Bool) (ctx : RangeContext) (text : List Char) : Category × RangeContext :=
  if ClassToken.isIncomplete unicode text then (.error .incompleteToken, ctx.after .none none)
  else if ClassToken.isClassEscape unicode text then (.metasequence, ctx.after .shorthand none)
  else if unicode && !ClassToken.isUnicodeEscape text then
    (.error .invalidEscape, ctx.after .none none)
  else (.metasequence, ctx.after .none (codePoint unicode text))

/-- The categories of the interior tokens, in order. -/
def categories (unicode : Bool) : RangeContext → List ClassToken → List Category
  | _, [] => []
  | ctx, t :: rest =>
    let (category, next) := match t.kind with
      | .literal => literal ctx t.text
      | .hyphen => hyphen unicode ctx rest.head?
      | .escape => escape unicode ctx t.text
    category :: categories unicode next rest

/-- The texts and categories of a class token's pieces. -/
def parts (unicode : Bool) (text : List Char) : List (List Char × Category) :=
  let p := ClassParts.ofText text
  let tokens := classTokenize unicode p.interior
  let opening := (p.opening, if p.closed then Category.classBoundary else .error .unclosedClass)
  let interior := (tokens.map ClassToken.text).zip (categories unicode .start tokens)
  let closing := if p.closed then [(p.closing, Category.classBoundary)] else []
  opening :: interior ++ closing

/-- The pieces of a class token that starts at byte `start`. -/
def pieces (unicode : Bool) (start : Nat) (text : List Char) : List Piece :=
  Piece.layout start (parts unicode text)

end CharClass

end RegexHighlight
