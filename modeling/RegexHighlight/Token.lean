import RegexHighlight.Token.Shape

/-!
# Top-level tokens

A pattern is read as a sequence of tokens by maximal munch. The first character of a token
decides its rule:

1. `[` starts a whole character class, interior included (`Shape.classExtent`);
2. `\` starts an escape (`Shape.escapeExtent`);
3. `(` starts a group opening (`Shape.groupExtent`);
4. `?`, `*` and `+` are quantifiers, and so is `{` when a whole interval follows it; each may
   be followed by a lazy `?`;
5. a character that is not special starts a run of such characters;
6. any other character is a token of its own: `)`, `|`, an anchor `^` or `$`, the dot, or a
   lone character (`{`, and under the Unicode-aware rules `]` and `}`).

Every token holds its first character, so `tokenize` ends, and the texts of the tokens it
returns concatenate to the pattern (`flatten_tokenize`).
-/

namespace RegexHighlight

/-- The coarse kind of a top-level token. -/
inductive TokenKind
  /-- A whole bracketed character class. -/
  | charClass
  | groupOpen
  | groupClose
  | escape
  /-- Anything shaped like a quantifier; whether it quantifies depends on what precedes it. -/
  | quantifier
  /-- `^` or `$`. -/
  | anchor
  | alternator
  | dot
  /-- A run of characters without special meaning. -/
  | literal
  /-- Any other single character, e.g. a `{` that starts no interval. -/
  | char
deriving DecidableEq, Repr

/-- A top-level token: its kind and its text. -/
structure Token where
  kind : TokenKind
  text : List Char
deriving DecidableEq, Repr

namespace Token

/-- The kind of the token that starts with `c`, followed by `rest`, and how many characters
of `rest` it takes. -/
def shape (unicode : Bool) (c : Char) (rest : List Char) : TokenKind × Nat :=
  if c = '[' then (.charClass, Shape.classExtent rest)
  else if c = '\\' then (.escape, Shape.escapeExtent unicode .pattern rest)
  else if c = '(' then (.groupOpen, Shape.groupExtent rest)
  else if c = '?' || c = '*' || c = '+' then (.quantifier, Shape.lazyExtent rest)
  else if c = '{' then
    match Shape.intervalExtent rest with
    | some n => (.quantifier, n + Shape.lazyExtent (rest.drop n))
    | none => (.char, 0)
  else if !Shape.isSpecial unicode c then
    (.literal, (rest.takeWhile fun d => !Shape.isSpecial unicode d).length)
  else if c = ')' then (.groupClose, 0)
  else if c = '|' then (.alternator, 0)
  else if c = '^' || c = '$' then (.anchor, 0)
  else if c = '.' then (.dot, 0)
  else (.char, 0)

end Token

/-- The top-level tokens of a pattern, in order. -/
def tokenize (unicode : Bool) : List Char → List Token
  | [] => []
  | c :: rest =>
    let (kind, n) := Token.shape unicode c rest
    ⟨kind, c :: rest.take n⟩ :: tokenize unicode (rest.drop n)
termination_by cs => cs.length
decreasing_by simp only [List.length_drop, List.length_cons]; omega

/-- The texts of the tokens concatenate to the pattern. -/
theorem flatten_tokenize (unicode : Bool) (cs : List Char) :
    ((tokenize unicode cs).map Token.text).flatten = cs := by
  induction cs using tokenize.induct unicode with
  | case1 => simp [tokenize]
  | case2 c rest kind n h ih =>
    rw [tokenize, h]
    simp [ih]

end RegexHighlight
