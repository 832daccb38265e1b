import RegexHighlight.Toml.Node
import RegexHighlight.Text.Quoted

/-!
# Parsers over TOML text

A parser reads from a cursor and either succeeds with a value and a new cursor, or fails. A
failure is either soft (`backtrack`), so that an enclosing choice may try another reading, or
hard (`cut`), once the input has committed to one reading and no other may be tried. A failure
records the offset where it happened and, as it travels outwards, what each enclosing rule was
reading (`invalid table header`) and what it expected there (`expected` a `]]`). A choice
that runs out of options reports the failure of its last option.
-/

namespace RegexHighlight.Toml

/-- Where a parse stands: the characters still to read, and the byte offset of the first. -/
structure Cursor where
  rest : List Char
  offset : Nat
deriving DecidableEq, Repr

namespace Cursor

/-- The start of a text. -/
def ofString (s : String) : Cursor := ⟨s.toList, 0⟩

/-- The cursor one character further. -/
def advance (c : Cursor) : Cursor :=
  match c.rest with
  | [] => c
  | ch :: rest => ⟨rest, c.offset + ch.utf8Size⟩

end Cursor

/-- What a failure says about where it happened. -/
inductive Context
  /-- The rule being read, shown as `invalid <what>`. -/
  | expression (what : String)
  /-- Something that would have been accepted, shown after `expected`. -/
  | expected (what : String)
deriving DecidableEq, Repr

/-- A failed parse: where, what was being read and expected there, and why. -/
structure Problem where
  offset : Nat
  context : List Context := []
  cause : Option String := none
deriving DecidableEq, Repr

/-- The wording of a parse failure: the innermost rule being read, everything expected there,
and the cause, one to a line. -/
def Problem.message (p : Problem) : String :=
  let expression := p.context.findSome? fun
    | .expression e => some e
    | .expected _ => none
  let expected := p.context.filterMap fun
    | .expected e => some e
    | .expression _ => none
  let lines := (expression.map ("invalid " ++ ·)).toList ++
    (if expected.isEmpty then [] else ["expected " ++ ", ".intercalate expected]) ++
    p.cause.toList
  "\n".intercalate lines

/-- How an expected character is named. -/
def expectedChar (c : Char) : String :=
  if c = '\n' then "newline"
  else if c = '\x60' then "\x27\x60\x27"
  else if c.toNat < 0x20 || c.toNat = 0x7f then "\x60" ++ Text.escapeDebug c ++ "\x60"
  else "\x60" ++ c.toString ++ "\x60"

/-- How an expected text is named. -/
def expectedText (s : String) : String := "\x60" ++ s ++ "\x60"

/-- The outcome of a parser. -/
inductive Outcome (α : Type) where
  | ok (a : α) (next : Cursor)
  | backtrack (p : Problem)
  | cut (p : Problem)
deriving Repr

/-- A parser of values of type `α`. -/
def Parser (α : Type) : Type := Cursor → Outcome α

instance : Monad Parser where
  pure a := fun c => .ok a c
  bind p f := fun c =>
    match p c with
    | .ok a c' => f a c'
    | .backtrack e => .backtrack e
    | .cut e => .cut e

namespace Parser

/-- Runs a parser. -/
def run {α : Type} (p : Parser α) (c : Cursor) : Outcome α := p c

/-- Fails softly here. -/
def fail {α : Type} : Parser α := fun c => .backtrack { offset := c.offset }

/-- Fails softly here for a reason. -/
def failBecause {α : Type} (cause : String) : Parser α :=
  fun c => .backtrack { offset := c.offset, cause := some cause }

/-- The byte offset reached. -/
def offset : Parser Nat := fun c => .ok c.offset c

/-- The next character, without reading it. -/
def peek : Parser (Option Char) := fun c => .ok c.rest.head? c

/-- The next two characters, without reading them. -/
def peekTwo : Parser (List Char) := fun c => .ok (c.rest.take 2) c

/-- Reads any character. -/
def anyChar : Parser Char := fun c =>
  match c.rest with
  | [] => .backtrack { offset := c.offset }
  | ch :: _ => .ok ch c.advance

/-- Reads a character that satisfies `p`. -/
def satisfy (p : Char → Bool) : Parser Char := fun c =>
  match c.rest with
  | ch :: _ => if p ch then .ok ch c.advance else .backtrack { offset := c.offset }
  | [] => .backtrack { offset := c.offset }

/-- Reads the character `ch`. -/
def char (ch : Char) : Parser Unit := fun c =>
  match c.rest with
  | d :: _ => if d = ch then .ok () c.advance else .backtrack { offset := c.offset }
  | [] => .backtrack { offset := c.offset }

/-- Advances a cursor over a prefix known to be there. -/
def skip (c : Cursor) (cs : List Char) : Cursor :=
  ⟨c.rest.drop cs.length, c.offset + cs.foldl (fun n ch => n + ch.utf8Size) 0⟩

/-- Reads the text `s`, all of it or nothing. -/
def literal (s : String) : Parser Unit := fun c =>
  if s.toList.isPrefixOf c.rest then .ok () (skip c s.toList) else .backtrack { offset := c.offset }

/-- Reads characters while they satisfy `p`, at least `least` of them and at most `most`. -/
def takeBetween (p : Char → Bool) (least : Nat) (most : Option Nat) : Parser (List Char) :=
  fun c =>
    let run := c.rest.takeWhile p
    let run := match most with
      | some m => run.take m
      | none => run
    if run.length < least then .backtrack { offset := c.offset } else .ok run (skip c run)

/-- Reads characters while they satisfy `p`. -/
def takeWhile (p : Char → Bool) : Parser (List Char) := takeBetween p 0 none

/-- Reads characters while they satisfy `p`, at least one. -/
def takeWhile1 (p : Char → Bool) : Parser (List Char) := takeBetween p 1 none

/-- Reads nothing at the end of the input, and fails elsewhere. -/
def eof : Parser Unit := fun c =>
  if c.rest.isEmpty then .ok () c else .backtrack { offset := c.offset }

/-- Makes every failure of `p` hard. -/
def cutErr {α : Type} (p : Parser α) : Parser α := fun c =>
  match p c with
  | .backtrack e => .cut e
  | r => r

/-- Records, on a failure of `p`, what it was about. -/
def withContext {α : Type} (ctx : Context) (p : Parser α) : Parser α := fun c =>
  match p c with
  | .backtrack e => .backtrack { e with context := e.context ++ [ctx] }
  | .cut e => .cut { e with context := e.context ++ [ctx] }
  | r => r

/-- Runs `p`, or reads nothing when it fails softly. -/
def optional {α : Type} (p : Parser α) : Parser (Option α) := fun c =>
  match p c with
  | .ok a c' => .ok (some a) c'
  | .backtrack _ => .ok none c
  | .cut e => .cut e

/-- Runs `p`, or `q` from the same place when `p` fails softly. -/
def orElse {α : Type} (p q : Parser α) : Parser α := fun c =>
  match p c with
  | .backtrack _ => q c
  | r => r

/-- The first of `ps` to succeed; when all fail softly, the failure of the last. -/
def firstOf {α : Type} : List (Parser α) → Parser α
  | [] => fail
  | [p] => p
  | p :: ps => orElse p (firstOf ps)

/-- Runs `p` with a soft failure in place of a success that read nothing. -/
def progressing {α : Type} (p : Parser α) : Parser α := fun c =>
  match p c with
  | .ok a c' => if c'.offset = c.offset then .backtrack { offset := c.offset } else .ok a c'
  | r => r

/-- `p` as many times as it succeeds, at most `fuel` times. -/
def manyFuel {α : Type} (p : Parser α) : Nat → List α → Parser (List α)
  | 0, acc => fun c => .ok acc.reverse c
  | fuel + 1, acc => fun c =>
    match progressing p c with
    | .ok a c' => manyFuel p fuel (a :: acc) c'
    | .backtrack _ => .ok acc.reverse c
    | .cut e => .cut e

/-- `p` as many times as it succeeds; every success reads something. -/
def many {α : Type} (p : Parser α) : Parser (List α) := fun c =>
  manyFuel p (c.rest.length + 1) [] c

/-- `p` at least once. -/
def many1 {α : Type} (p : Parser α) : Parser (List α) := do
  let first ← progressing p
  let more ← many p
  pure (first :: more)

/-- Further items after separators, at most `fuel` of them. When a separator is not followed
by an item, reading stops before the separator. -/
def sepTail {α β : Type} (p : Parser α) (sep : Parser β) : Nat → List α → Parser (List α)
  | 0, acc => fun c => .ok acc.reverse c
  | fuel + 1, acc => fun c =>
    match progressing sep c with
    | .ok _ c' =>
      match p c' with
      | .ok a c'' => sepTail p sep fuel (a :: acc) c''
      | .backtrack _ => .ok acc.reverse c
      | .cut e => .cut e
    | .backtrack _ => .ok acc.reverse c
    | .cut e => .cut e

/-- One or more items separated by `sep`. -/
def sepBy1 {α β : Type} (p : Parser α) (sep : Parser β) : Parser (List α) := fun c =>
  match p c with
  | .ok a c' => sepTail p sep (c'.rest.length + 1) [a] c'
  | .backtrack e => .backtrack e
  | .cut e => .cut e

/-- Zero or more items separated by `sep`. -/
def sepBy {α β : Type} (p : Parser α) (sep : Parser β) : Parser (List α) := fun c =>
  match p c with
  | .ok a c' => sepTail p sep (c'.rest.length + 1) [a] c'
  | .backtrack _ => .ok [] c
  | .cut e => .cut e

/-- Runs `p` and the byte range it read. -/
def spanned {α : Type} (p : Parser α) : Parser (α × Range) := fun c =>
  match p c with
  | .ok a c' => .ok (a, ⟨c.offset, c'.offset⟩) c'
  | .backtrack e => .backtrack e
  | .cut e => .cut e

/-- Runs `p` and the text it read. -/
def recognize {α : Type} (p : Parser α) : Parser (List Char) := fun c =>
  match p c with
  | .ok _ c' => .ok (c.rest.take (c.rest.length - c'.rest.length)) c'
  | .backtrack e => .backtrack e
  | .cut e => .cut e

/-- Runs `p` and checks its value with `f`; a rejected value fails softly where `p` started,
for the reason `f` gives. -/
def tryMap {α β : Type} (p : Parser α) (f : α → Except String β) : Parser β := fun c =>
  match p c with
  | .ok a c' =>
    match f a with
    | .ok b => .ok b c'
    | .error why => .backtrack { offset := c.offset, cause := some why }
  | .backtrack e => .backtrack e
  | .cut e => .cut e

/-- Runs `p` and keeps its value when `f` accepts it; otherwise fails softly where `p`
started. -/
def verify {α : Type} (p : Parser α) (f : α → Bool) : Parser α := fun c =>
  match p c with
  | .ok a c' => if f a then .ok a c' else .backtrack { offset := c.offset }
  | r => r

end Parser

end RegexHighlight.Toml
