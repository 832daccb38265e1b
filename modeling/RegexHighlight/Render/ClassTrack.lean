import RegexHighlight.Span

/-!
# Where pieces stand relative to classes

Renderers style a character class as a whole, while each piece only says what it is. Following
the pieces in order tells which of them open a class (a class boundary, or an unclosed-class
error), which close one (a class boundary met inside a class), which lie inside and which lie
outside.
-/

namespace RegexHighlight

/-- Where a piece stands relative to the character classes of a pattern. -/
inductive ClassPosition
  | outside
  /-- The opening of a class, closed or not. -/
  | opening
  | inside
  | closing
deriving DecidableEq, Repr

namespace ClassPosition

/-- The position of a piece of `category`, and whether a class is open after it, given
whether one is open before it. -/
def step (isOpen : Bool) (category : Category) : ClassPosition × Bool :=
  match category with
  | .classBoundary => if isOpen then (.closing, false) else (.opening, true)
  | .error .unclosedClass => (.opening, true)
  | _ => (if isOpen then .inside else .outside, isOpen)

/-- The positions of pieces with the given categories, and whether a class is still open
after the last of them. -/
def track (categories : List Category) : List ClassPosition × Bool :=
  let (positions, isOpen) := categories.foldl
    (fun (acc : Array ClassPosition × Bool) c =>
      let (p, isOpen) := step acc.2 c
      (acc.1.push p, isOpen)) (#[], false)
  (positions.toList, isOpen)

end ClassPosition

end RegexHighlight
