/-!
# Trimming whitespace

Whitespace here is the Unicode `White_Space` property: the ASCII blanks and line breaks from
tab to carriage return and the space, the next-line control, the no-break spaces, the
Ogham space mark, the spaces of the General Punctuation block, the line and paragraph
separators, the medium mathematical space and the ideographic space.
-/

namespace RegexHighlight.Text

/-- Whether a character is whitespace. -/
def isWhiteSpace (c : Char) : Bool :=
  let n := c.toNat
  (0x09 ≤ n && n ≤ 0x0d) || n = 0x20 || n = 0x85 || n = 0xa0 || n = 0x1680 ||
    (0x2000 ≤ n && n ≤ 0x200a) || n = 0x2028 || n = 0x2029 || n = 0x202f || n = 0x205f ||
    n = 0x3000

/-- Drops whitespace from both ends of a text. -/
def trim (s : String) : String :=
  String.ofList ((s.toList.dropWhile isWhiteSpace).reverse.dropWhile isWhiteSpace).reverse

end RegexHighlight.Text
