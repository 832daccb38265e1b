import RegexHighlight.Text.Printable
import RegexHighlight.Text.GraphemeExtend

/-!
# Quoted text

The quoted form of a text shows it between double quotes with every character that would be
hard to read written as an escape: the backslash escapes `\0 \t \r \n \\ \"`, and `\u{…}` with
lowercase hex digits for grapheme extenders and unprintable characters. A single character is
shown the same way, except that the single quote is escaped as well (`\'`), since such a
character is shown between single quotes.

Diagnostics, tables and logs show patterns in this form, so that a reader sees every byte of
the pattern even when it holds controls or combining marks.
-/

namespace RegexHighlight.Text

/-- The escape `\u{h}` of a character, with `h` its code point in lowercase hex digits. -/
def unicodeEscape (c : Char) : String :=
  "\\u\x7b" ++ String.ofList (Nat.toDigits 16 c.toNat) ++ "\x7d"

/-- The quoted form of one character; `single` and `double` say whether the single and the
double quote are escaped. -/
def escapeChar (single double : Bool) (c : Char) : String :=
  if c = '\x00' then "\\0"
  else if c = '\t' then "\\t"
  else if c = '\r' then "\\r"
  else if c = '\n' then "\\n"
  else if c = '\\' then "\\\\"
  else if c = '"' then (if double then "\\\"" else "\"")
  else if c = '\x27' then (if single then "\\\x27" else "\x27")
  else if isGraphemeExtend c then unicodeEscape c
  else if isPrintable c then c.toString
  else unicodeEscape c

/-- A character as it is shown between single quotes. -/
def escapeDebug (c : Char) : String := escapeChar true true c

/-- A text between double quotes, with the characters that need it escaped. -/
def quote (s : String) : String :=
  "\"" ++ String.join (s.toList.map (escapeChar false true)) ++ "\""

end RegexHighlight.Text
