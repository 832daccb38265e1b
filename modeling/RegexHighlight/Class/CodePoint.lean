import RegexHighlight.Token.Shape

/-!
# Code points of class tokens

A range `a-b` in a character class is reversed when the code point of `a` exceeds that of `b`.
`codePoint` gives the code point a class token stands for, when it stands for exactly one:
a literal run stands for its first character, and an escape for the character it writes
(`\cX` for the code of `X` mod 32, `\xHH`, `\uHHHH` and `\u{…}` for their hex value up to
`10FFFF`, a legacy octal escape for its octal value, `\b \f \n \r \t \v` for the controls they
name, and any other single-character escape for the escaped character). Class escapes such as
`\d`, incomplete escapes and, under the Unicode-aware rules, `\p`, `\P`, `\1`–`\9` and `\0`
followed by digits stand for none.
-/

namespace RegexHighlight

namespace CodePoint

/-- The value of a character as a digit, in any radix up to 36. -/
def digitValue (c : Char) : Nat :=
  if '0' ≤ c && c ≤ '9' then c.toNat - '0'.toNat
  else if 'a' ≤ c && c ≤ 'z' then c.toNat - 'a'.toNat + 10
  else if 'A' ≤ c && c ≤ 'Z' then c.toNat - 'A'.toNat + 10
  else 36

/-- The largest value a 32-bit unsigned word holds. -/
def wordMax : Nat := 4294967295

/-- The value of a numeral in `radix`: digits of the radix after an optional `+`, at least one
of them, with a value that fits in 32 bits. -/
def numeral? (radix : Nat) (cs : List Char) : Option Nat :=
  let digits := match cs with
    | '+' :: rest@(_ :: _) => rest
    | _ => cs
  if digits.isEmpty || !digits.all (digitValue · < radix) then none
  else
    let value := digits.foldl (fun n c => n * radix + digitValue c) 0
    if value ≤ wordMax then some value else none

/-- The hex digits of `\x…` and `\u…`, without the braces of `\u{…}`. -/
def unbrace (cs : List Char) : List Char :=
  match cs with
  | '{' :: inner => if inner.getLast? = some '}' then inner.dropLast else cs
  | _ => cs

/-- The control a letter escape names: `\b \f \n \r \t \v`; any other escaped character
stands for itself. -/
def simpleEscape (c : Char) : Nat :=
  if c = 'b' then 0x08
  else if c = 'f' then 0x0C
  else if c = 'n' then 0x0A
  else if c = 'r' then 0x0D
  else if c = 't' then 0x09
  else if c = 'v' then 0x0B
  else c.toNat

/-- The code point written by the escape whose text after the backslash is `esc`. -/
def ofEscape (unicode : Bool) (esc : List Char) : Option Nat :=
  match esc with
  | [] => none
  | first :: rest =>
    if first = 'c' && !rest.isEmpty then
      match rest with
      | letter :: _ =>
        if Shape.isLetter letter then some (letter.toUpper.toNat - 'A'.toNat + 1) else none
      | [] => none
    else if (first = 'x' || first = 'u') && !rest.isEmpty then
      (numeral? 16 (unbrace rest)).filter (· ≤ 0x10FFFF)
    else if first = '0' && rest.isEmpty then some 0
    else if Shape.isOctal first && !unicode then numeral? 8 esc
    else if !rest.isEmpty then none
    else if first ∈ ['d', 'D', 's', 'S', 'w', 'W', 'c', 'x', 'u'] then none
    else if (first = 'p' || first = 'P') && unicode then none
    else if '1' ≤ first && first ≤ '9' && unicode then none
    else some (simpleEscape first)

end CodePoint

/-- The code point a class token stands for, if it stands for exactly one. -/
def codePoint (unicode : Bool) (token : List Char) : Option Nat :=
  match token with
  | '\\' :: esc => CodePoint.ofEscape unicode esc
  | c :: _ => some c.toNat
  | [] => none

end RegexHighlight
