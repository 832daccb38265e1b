import RegexHighlight.Span

/-!
# Tiling

Pieces tile a pattern when they cover it in order without gaps or overlaps: each piece starts
at the byte where the previous one stopped (the first at 0), spans exactly the bytes of its
text, its text is the next stretch of the pattern, and the last piece stops at the end.
-/

namespace RegexHighlight

/-- Whether `pieces` tile the characters `rest`, the first piece starting at byte `pos`. -/
def tilesFrom : Nat → List Char → List Piece → Bool
  | _, rest, [] => rest.isEmpty
  | pos, rest, p :: ps =>
    let text := p.text.toList
    p.span.start == pos && p.span.stop == pos + utf8Length text &&
      rest.take text.length == text && tilesFrom p.span.stop (rest.drop text.length) ps

/-- Whether `pieces` tile `pattern`. -/
def Tiles (pattern : String) (pieces : List Piece) : Bool :=
  tilesFrom 0 pattern.toList pieces

end RegexHighlight
