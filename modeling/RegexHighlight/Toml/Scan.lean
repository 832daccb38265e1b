import RegexHighlight.Toml.Parser

/-!
# TOML tokens

Whitespace, comments and line breaks; the four kinds of strings (basic and literal, each on one
line or on several); and keys, bare or quoted, joined by dots into paths. A string or key that
starts is committed to: a missing closing quote or a bad escape sequence is a hard failure that
names the kind of string being read.
-/

namespace RegexHighlight.Toml

open RegexHighlight.Toml.Parser

/-- Spaces and tabs. -/
def isWs (c : Char) : Bool := c = ' ' || c = '\t'

/-- Characters outside ASCII. -/
def isNonAscii (c : Char) : Bool := c.toNat ≥ 0x80

/-- Characters a comment may hold. -/
def isCommentChar (c : Char) : Bool :=
  c = '\t' || (0x20 ≤ c.toNat && c.toNat ≤ 0x7e) || isNonAscii c

/-- Characters a basic string holds as they are. -/
def isBasicChar (c : Char) : Bool :=
  isWs c || c.toNat = 0x21 || (0x23 ≤ c.toNat && c.toNat ≤ 0x5b) ||
    (0x5d ≤ c.toNat && c.toNat ≤ 0x7e) || isNonAscii c

/-- Characters a literal string holds. -/
def isLiteralChar (c : Char) : Bool :=
  c = '\t' || (0x20 ≤ c.toNat && c.toNat ≤ 0x26) || (0x28 ≤ c.toNat && c.toNat ≤ 0x7e) ||
    isNonAscii c

/-- Decimal digits. -/
def isDigit (c : Char) : Bool := '0' ≤ c && c ≤ '9'

/-- Hexadecimal digits. -/
def isHexDigit (c : Char) : Bool :=
  isDigit c || ('a' ≤ c && c ≤ 'f') || ('A' ≤ c && c ≤ 'F')

/-- Spaces and tabs, possibly none. -/
def ws : Parser (List Char) := takeWhile isWs

/-- A line break: `\n` or `\r\n`. -/
def newline : Parser Unit := orElse (char '\n') (do char '\r'; char '\n')

/-- The end of a line: a line break or the end of the input. -/
def lineEnding : Parser Unit := orElse newline eof

/-- A comment, from `#` to the end of the line. -/
def comment : Parser Unit := do
  char '#'
  let _ ← takeWhile isCommentChar
  pure ()

/-- What may follow a value or a header on its line: spaces, a comment, the line's end. -/
def lineTrailing : Parser Unit := do
  let _ ← ws
  let _ ← optional comment
  lineEnding

/-- Spaces, tabs and line breaks. -/
def wsNewline : Parser Unit := do
  let _ ← many (orElse newline (do let _ ← takeWhile1 isWs; pure ()))
  pure ()

/-- Spaces, tabs, line breaks and comments, as between the items of an array. -/
def wsCommentNewline : Parser Unit := do
  let blank : Parser Unit := do
    let _ ← many1 (orElse (do let _ ← takeWhile1 isWs; pure ()) newline)
    pure ()
  let _ ← many (orElse blank comment)
  pure ()

/-- The value of hexadecimal digits. -/
def hexValue (cs : List Char) : Nat :=
  cs.foldl (fun n c =>
    n * 16 + if isDigit c then c.toNat - '0'.toNat
      else if 'a' ≤ c && c ≤ 'f' then c.toNat - 'a'.toNat + 10
      else c.toNat - 'A'.toNat + 10) 0

/-- The character of a `\u` or `\U` escape with `n` hexadecimal digits. -/
def hexEscape (n : Nat) : Parser Char :=
  tryMap (verify (takeBetween isHexDigit 0 (some n)) fun ds => ds.length = n) fun ds =>
    let v := hexValue ds
    if h : v.isValidChar then .ok (Char.ofNatAux v h) else .error "value is out of range"

/-- What follows the backslash of an escape sequence. -/
def escapeSequence : Parser Char := do
  let c ← anyChar
  match c with
  | 'b' => pure '\x08'
  | 'f' => pure '\x0c'
  | 'n' => pure '\n'
  | 'r' => pure '\r'
  | 't' => pure '\t'
  | '\\' => pure '\\'
  | '"' => pure '"'
  | 'u' => withContext (.expression "unicode 4-digit hex code") (cutErr (hexEscape 4))
  | 'U' => withContext (.expression "unicode 8-digit hex code") (cutErr (hexEscape 8))
  | _ =>
    ["b", "f", "n", "r", "t", "u", "U", "\\", "\""].foldl
      (fun p e => withContext (.expected (expectedText e)) p)
      (withContext (.expression "escape sequence") (cutErr fail))

/-- An escape sequence. -/
def escaped : Parser Char := do
  char '\\'
  escapeSequence

/-- A run of characters of a basic string. -/
def basicChars : Parser (List Char) :=
  orElse (takeWhile1 isBasicChar) (do let c ← escaped; pure [c])

/-- A basic string, `"..."`. -/
def basicString : Parser String := do
  char '"'
  let parts ← many basicChars
  withContext (.expression "basic string") (cutErr (char '"'))
  pure (String.ofList parts.flatten)

/-- A literal string, `'...'`. -/
def literalString : Parser String :=
  withContext (.expression "literal string") do
    char '\x27'
    let body ← cutErr (takeWhile isLiteralChar)
    cutErr (char '\x27')
    pure (String.ofList body)

/-- One or two quotes `q`, when `after` follows them. -/
def closingQuotes (q : Char) (after : Parser Unit) : Parser (List Char) := fun c =>
  match (do char q; char q; let _ ← lookAhead after; pure [q, q] : Parser (List Char)) c with
  | .backtrack _ => (do char q; let _ ← lookAhead after; pure [q] : Parser (List Char)) c
  | r => r
where
  /-- Runs `p` without reading anything. -/
  lookAhead (p : Parser Unit) : Parser Unit := fun c =>
    match p c with
    | .ok _ _ => .ok () c
    | .backtrack e => .backtrack e
    | .cut e => .cut e

/-- Whether a character is not `q`. -/
def notChar (q : Char) : Parser Unit := do
  let _ ← satisfy (· ≠ q)
  pure ()

/-- A backslash at the end of a line, which drops the line break and the blanks after it. -/
def escapedNewline : Parser Unit := do
  let _ ← many1 (do char '\\'; let _ ← ws; newline; wsNewline)
  pure ()

/-- A piece of the body of a multi-line basic string. -/
def multiBasicContent : Parser (List Char) :=
  firstOf [takeWhile1 isBasicChar, (do escapedNewline; pure []),
    (do let c ← escaped; pure [c]), (do newline; pure ['\n'])]

/-- Runs of quotes each followed by contents in the body of a multi-line basic string, at most
`fuel` of them, appended to `acc`. Quotes that no contents follow are still read, and end the
runs, so that a problem after them is reported after them. -/
def quotedRuns (quotes content : Parser (List Char)) : Nat → List Char → Parser (List Char)
  | 0, acc => fun c => .ok acc c
  | fuel + 1, acc => fun c =>
    match progressing quotes c with
    | .ok qs c' =>
      match many1 content c' with
      | .ok more c'' => quotedRuns quotes content fuel (acc ++ qs ++ more.flatten) c''
      | .backtrack _ => .ok acc c'
      | .cut e => .cut e
    | .backtrack _ => .ok acc c
    | .cut e => .cut e

/-- The body of a multi-line basic string. -/
def multiBasicBody : Parser (List Char) := do
  let first ← many multiBasicContent
  let rest ← fun c =>
    quotedRuns (closingQuotes '"' (notChar '"')) multiBasicContent (c.rest.length + 1) [] c
  let last ← optional (closingQuotes '"' (literal "\"\"\""))
  pure (first.flatten ++ rest ++ last.getD [])

/-- A multi-line basic string, `"""..."""`. -/
def multiBasicString : Parser String :=
  withContext (.expression "multiline basic string") do
    literal "\"\"\""
    let _ ← optional newline
    let body ← cutErr multiBasicBody
    cutErr (literal "\"\"\"")
    pure (String.ofList body)

/-- A piece of the body of a multi-line literal string. -/
def multiLiteralContent : Parser (List Char) :=
  orElse (do let c ← satisfy isLiteralChar; pure [c]) (do newline; pure ['\n'])

/-- The body of a multi-line literal string. -/
def multiLiteralBody : Parser (List Char) := do
  let first ← many multiLiteralContent
  let rest ← many (do
    let qs ← closingQuotes '\x27' (notChar '\x27')
    let more ← many1 multiLiteralContent
    pure (qs ++ more.flatten))
  let last ← optional (closingQuotes '\x27' (literal "\x27\x27\x27"))
  pure (first.flatten ++ rest.flatten ++ last.getD [])

/-- A multi-line literal string, `'''...'''`. -/
def multiLiteralString : Parser String :=
  withContext (.expression "multiline literal string") do
    literal "\x27\x27\x27"
    let _ ← optional newline
    let body ← cutErr multiLiteralBody
    cutErr (literal "\x27\x27\x27")
    pure (String.ofList body)

/-- Any string. -/
def string : Parser String :=
  firstOf [multiBasicString, basicString, multiLiteralString, literalString]

/-- A key without dots: bare, or quoted as a basic or literal string. -/
def simpleKey : Parser Key := fun c =>
  let p : Parser String := match c.rest.head? with
    | some '"' => basicString
    | some '\x27' => literalString
    | _ => do
      let name ← takeWhile1 isBareKeyChar
      pure (String.ofList name)
  match p c with
  | .ok name c' =>
    let raw := String.ofList (c.rest.take (c.rest.length - c'.rest.length))
    .ok ⟨name, raw, ⟨c.offset, c'.offset⟩⟩ c'
  | .backtrack e => .backtrack e
  | .cut e => .cut e

/-- How many keys a dotted key may have. -/
def keyLimit : Nat := 128

/-- A dotted key, with blanks around each part. -/
def key : Parser (List Key) :=
  tryMap
    (withContext (.expression "key")
      (sepBy1 (do let _ ← ws; let k ← simpleKey; let _ ← ws; pure k) (char '.')))
    fun ks => if ks.length < keyLimit then .ok ks else .error "recursion limit exceeded"

end RegexHighlight.Toml
