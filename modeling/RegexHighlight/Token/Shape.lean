/-!
# Token shapes

The lexical rules of the dialect measure how far a token reaches. Each function here takes
the characters that follow a token's first character and returns how many of them belong to
the token (its *extent*), or `none` when the shape is absent. Every shape that is measured is
made of ASCII characters, so a count of characters is also a count of bytes.

The escape rules (`escapeExtent`) depend on where the escape stands: inside a character class,
`\1` to `\7` start a legacy octal escape and `\k` is an ordinary escape, while in the pattern
`\1` to `\9` take every following digit (a backreference or its legacy reading) and `\k` may
take a group name.
-/

namespace RegexHighlight

/-- Where an escape stands. -/
inductive EscapeContext
  | pattern
  | inClass
deriving DecidableEq, Repr

namespace Shape

/-- An ASCII decimal digit. -/
def isDigit (c : Char) : Bool := '0' ≤ c && c ≤ '9'

/-- An ASCII octal digit. -/
def isOctal (c : Char) : Bool := '0' ≤ c && c ≤ '7'

/-- An ASCII hex digit, in either case. -/
def isHex (c : Char) : Bool :=
  isDigit c || ('a' ≤ c && c ≤ 'f') || ('A' ≤ c && c ≤ 'F')

/-- An ASCII letter. -/
def isLetter (c : Char) : Bool := ('a' ≤ c && c ≤ 'z') || ('A' ≤ c && c ≤ 'Z')

/-- A character that may start a group name: an ASCII letter, `_` or `$`. -/
def isNameStart (c : Char) : Bool := isLetter c || c = '_' || c = '$'

/-- A character that may continue a group name. -/
def isNameChar (c : Char) : Bool := isNameStart c || isDigit c

/-- A character of a property name or `name=value` pair. -/
def isPropertyChar (c : Char) : Bool := isLetter c || isDigit c || c = '_' || c = '='

/-- The length of the leading run of decimal digits. -/
def digitRun (cs : List Char) : Nat := (cs.takeWhile isDigit).length

/-- The length of the longest legacy octal escape at the front, which is at most `377`:
`[0-3][0-7]{0,2}` or `[4-7][0-7]?`, and 0 when `cs` does not start with an octal digit. -/
def octalExtent (cs : List Char) : Nat :=
  match cs with
  | [] => 0
  | c :: _ =>
    let most := if '0' ≤ c && c ≤ '3' then 3 else if '4' ≤ c && c ≤ '7' then 2 else 0
    ((cs.take most).takeWhile isOctal).length

/-- Whether `cs` starts with at least `n` hex digits. -/
def hasHex (cs : List Char) (n : Nat) : Bool :=
  (cs.take n).length = n && (cs.take n).all isHex

/-- The extent of `{` hex digits `}` at the front, braces included. -/
def bracedHexExtent (cs : List Char) : Option Nat :=
  match cs with
  | '{' :: body =>
    let n := (body.takeWhile isHex).length
    if n > 0 && (body.drop n).head? = some '}' then some (n + 2) else none
  | _ => none

/-- The extent of `{` property `}` at the front, braces included. -/
def propertyExtent (cs : List Char) : Option Nat :=
  match cs with
  | '{' :: body =>
    let n := (body.takeWhile isPropertyChar).length
    if n > 0 && (body.drop n).head? = some '}' then some (n + 2) else none
  | _ => none

/-- The length of the group name at the front, provided a `>` follows it directly; the `>`
is not counted. -/
def nameExtent (cs : List Char) : Option Nat :=
  match cs with
  | c :: _ =>
    if isNameStart c then
      let n := (cs.takeWhile isNameChar).length
      if (cs.drop n).head? = some '>' then some n else none
    else none
  | [] => none

/-- The extent of an escape after its backslash. At the end of the pattern it is 0;
otherwise the first of these rules that applies gives it:

* `0` and, under the Unicode-aware rules, every digit that follows;
* in a legacy class, `1`–`7` with a legacy octal tail;
* `0` with a legacy octal tail;
* in the pattern, `1`–`9` and every digit that follows;
* `x` and two hex digits; `u` and four hex digits;
* under the Unicode-aware rules, `u{` hex digits `}`;
* `c` and an ASCII letter;
* in the pattern, `k<name>`;
* under the Unicode-aware rules, `p{…}` or `P{…}`;
* any single character. -/
def escapeExtent (unicode : Bool) (ctx : EscapeContext) (cs : List Char) : Nat :=
  match cs with
  | [] => 0
  | c :: after =>
    if c = '0' && unicode then 1 + digitRun after
    else if '1' ≤ c && c ≤ '7' && ctx = .inClass && !unicode then octalExtent cs
    else if c = '0' then octalExtent cs
    else if '1' ≤ c && c ≤ '9' && ctx = .pattern then 1 + digitRun after
    else if c = 'x' && hasHex after 2 then 3
    else if c = 'u' && hasHex after 4 then 5
    else if c = 'u' && unicode then
      match bracedHexExtent after with
      | some n => 1 + n
      | none => 1
    else if c = 'c' && (after.head?.map isLetter).getD false then 2
    else if c = 'k' && ctx = .pattern then
      match after with
      | '<' :: rest =>
        match nameExtent rest with
        | some n => n + 3
        | none => 1
      | _ => 1
    else if (c = 'p' || c = 'P') && unicode then
      match propertyExtent after with
      | some n => 1 + n
      | none => 1
    else 1

/-- The extent of an interval quantifier `{m}`, `{m,}` or `{m,n}` after its `{`, where `m` is
at least one digit. -/
def intervalExtent (cs : List Char) : Option Nat :=
  let low := digitRun cs
  if low = 0 then none
  else
    match cs.drop low with
    | ',' :: rest =>
      let high := digitRun rest
      if (rest.drop high).head? = some '}' then some (low + high + 2) else none
    | '}' :: _ => some (low + 1)
    | _ => none

/-- One more character when a lazy `?` follows. -/
def lazyExtent (cs : List Char) : Nat :=
  if cs.head? = some '?' then 1 else 0

/-- The extent of the rest of a character class after its `[`: an optional `^`, then
characters up to and including the first `]` that is not escaped, or everything when no such
`]` comes. -/
def classBodyExtent : List Char → Nat
  | [] => 0
  | ']' :: _ => 1
  | '\\' :: [] => 1
  | '\\' :: _ :: rest => 2 + classBodyExtent rest
  | _ :: rest => 1 + classBodyExtent rest

/-- The extent of a character class after its `[`. -/
def classExtent (cs : List Char) : Nat :=
  match cs with
  | '^' :: rest => 1 + classBodyExtent rest
  | _ => classBodyExtent cs

/-- The extent of a group opening after its `(`: `?` followed by one of `<=`, `<!`,
`<name>`, `:`, `=`, `!` or nothing at all; or nothing. -/
def groupExtent (cs : List Char) : Nat :=
  match cs with
  | '?' :: rest =>
    match rest with
    | '<' :: '=' :: _ => 3
    | '<' :: '!' :: _ => 3
    | '<' :: name =>
      match nameExtent name with
      | some n => n + 3
      | none => 1
    | ':' :: _ => 2
    | '=' :: _ => 2
    | '!' :: _ => 2
    | _ => 1
  | _ => 0

/-- A character that forms a token of its own outside a class. The closing brackets `]` and
`}` are special only under the Unicode-aware rules. -/
def isSpecial (unicode : Bool) (c : Char) : Bool :=
  c = '.' || c = '?' || c = '*' || c = '+' || c = '^' || c = '$' || c = '{' || c = '[' ||
    c = '(' || c = ')' || c = '|' || c = '\\' || ((c = ']' || c = '}') && unicode)

/-- A syntax character: with `/`, the only characters that may be escaped under the
Unicode-aware rules. -/
def isSyntaxChar (c : Char) : Bool :=
  c = '^' || c = '$' || c = '\\' || c = '.' || c = '*' || c = '+' || c = '?' || c = '(' ||
    c = ')' || c = '[' || c = ']' || c = '{' || c = '}' || c = '|'

end Shape

end RegexHighlight
