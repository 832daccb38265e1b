/-!
# Code point ranges

Character properties are stored as arrays of inclusive ranges of code points. A code point has
the property when some range holds it.
-/

namespace RegexHighlight.Text

/-- Whether some inclusive range of `table` holds `n`. -/
def inRanges (table : Array (Nat × Nat)) (n : Nat) : Bool :=
  table.any fun range => range.1 ≤ n && n ≤ range.2

end RegexHighlight.Text
