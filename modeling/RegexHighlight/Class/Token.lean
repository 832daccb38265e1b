import RegexHighlight.Token.Shape

/-!
# Character class interiors

A character class token is cut into an opening (`[` or `[^`), an interior and a closing `]`,
which is missing when the class is never closed (`ClassParts.ofText`). The interior has its own
tokens: escapes (read with the class rules of `Shape.escapeExtent`), single hyphens, and runs of
any other characters (`classTokenize`). As at the top level, every token holds its first
character and the token texts concatenate to the interior (`flatten_classTokenize`).
-/

namespace RegexHighlight

/-- The opening, interior and closing of a character class token. -/
structure ClassParts where
  opening : List Char
  interior : List Char
  closing : List Char
deriving DecidableEq, Repr

namespace ClassParts

/-- The length of an interior: the characters up to the first `]` that is not escaped. -/
def interiorExtent : List Char → Nat
  | [] => 0
  | ']' :: _ => 0
  | '\\' :: [] => 1
  | '\\' :: _ :: rest => 2 + interiorExtent rest
  | _ :: rest => 1 + interiorExtent rest

/-- Cuts the text of a class token into its parts. -/
def ofText (text : List Char) : ClassParts :=
  let openLength := if text.take 2 = ['[', '^'] then 2 else 1
  let body := text.drop openLength
  let n := interiorExtent body
  ⟨text.take openLength, body.take n, body.drop n⟩

/-- Whether the class has its closing `]`. -/
def closed (p : ClassParts) : Bool := !p.closing.isEmpty

end ClassParts

/-- The kind of a token inside a character class. -/
inductive ClassTokenKind
  /-- A run of characters other than `\` and `-`. -/
  | literal
  | hyphen
  | escape
deriving DecidableEq, Repr

/-- A token inside a character class. -/
structure ClassToken where
  kind : ClassTokenKind
  text : List Char
deriving DecidableEq, Repr

namespace ClassToken

/-- The kind of the class token that starts with `c`, followed by `rest`, and how many
characters of `rest` it takes. -/
def shape (unicode : Bool) (c : Char) (rest : List Char) : ClassTokenKind × Nat :=
  if c = '\\' then (.escape, Shape.escapeExtent unicode .inClass rest)
  else if c = '-' then (.hyphen, 0)
  else (.literal, (rest.takeWhile fun d => d ≠ '\\' && d ≠ '-').length)

end ClassToken

/-- The tokens of a class interior, in order. -/
def classTokenize (unicode : Bool) : List Char → List ClassToken
  | [] => []
  | c :: rest =>
    let (kind, n) := ClassToken.shape unicode c rest
    ⟨kind, c :: rest.take n⟩ :: classTokenize unicode (rest.drop n)
termination_by cs => cs.length
decreasing_by simp only [List.length_drop, List.length_cons]; omega

/-- The texts of the class tokens concatenate to the interior. -/
theorem flatten_classTokenize (unicode : Bool) (cs : List Char) :
    ((classTokenize unicode cs).map ClassToken.text).flatten = cs := by
  induction cs using classTokenize.induct unicode with
  | case1 => simp [classTokenize]
  | case2 c rest kind n h ih =>
    rw [classTokenize, h]
    simp [ih]

end RegexHighlight
