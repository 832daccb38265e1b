import RegexHighlight.Toml.Number

/-!
# TOML values

A value is chosen by its first character: a quote starts a string, `[` an array, `{` an inline
table, a sign or digit a date, time or number, and `t`, `f`, `i` and `n` the words `true`,
`false`, `inf` and `nan`. Anything else is reported as a string that lacks its quotes, the most
likely mistake. Arrays and inline tables nest; `room` bounds how deep, and going deeper is a
failure of its own.
-/

namespace RegexHighlight.Toml

open RegexHighlight.Toml.Parser

/-- The failure of a value that is not one: a string was likely meant. -/
def notAValue {α : Type} (p : Parser α) : Parser α :=
  withContext (.expected (expectedChar '\x27'))
    (withContext (.expected (expectedChar '"')) (withContext (.expression "string") p))

/-- The word `w`, once its first character is seen. -/
def word (w : String) : Parser Unit := cutErr (literal w)

/-- Puts `key = value` into an inline table under construction. Dotted keys make inline
tables of their own, and may also reach into an inline table written out before them in the
same table. -/
def insertInline (path : List Key) (k : Key) (v : Node) :
    List Key → List (Key × Node) → Except Clash (List (Key × Node))
  | [], entries =>
    if entries.any (·.1.name == k.name) then .error (.duplicateKey k.name none)
    else .ok (entries ++ [(k, v)])
  | p :: ps, entries =>
    let i := path.length - ps.length - 1
    match entries.find? (·.1.name == p.name) with
    | none => do
      let inner ← insertInline path k v ps []
      .ok (entries ++ [(p, .inlineTable inner true none)])
    | some (_, .inlineTable inner d s) => do
      let inner ← insertInline path k v ps inner
      .ok (entries.map fun e => if e.1.name == p.name then (e.1, .inlineTable inner d s) else e)
    | some (_, other) => .error (.extendsValue (path.take (i + 1)) other.typeName)

/-- Builds an inline table from its key-value pairs, in order. -/
def inlineEntries : List (List Key × Key × Node) → Except Clash (List (Key × Node)) :=
  fun pairs => pairs.foldlM (fun entries (path, k, v) => insertInline path k v path entries) []

/-- How deep arrays and inline tables may nest. -/
def nestingLimit : Nat := 128

/-- The body of an array or inline table: `items` when another level may open, and the
nesting failure otherwise. -/
def nested {α : Type} (items : Option (Parser Node)) (body : Parser Node → Parser α) : Parser α :=
  match items with
  | some inner => body inner
  | none => failBecause "recursion limit exceeded"

/-- An array whose items are read by `item`. -/
def arrayWith (item : Option (Parser Node)) : Parser Node := fun c =>
  let body := nested item fun inner => do
    let items ← optional (do
      let items ← sepBy1 (do wsCommentNewline; let v ← inner; wsCommentNewline; pure v)
        (char ',')
      let _ ← optional (char ',')
      pure items)
    wsCommentNewline
    pure (items.getD [])
  let p : Parser (List Node) := do
    char '['
    let items ← cutErr body
    withContext (.expected (expectedChar ']'))
      (withContext (.expression "array") (cutErr (char ']')))
    pure items
  match spanned p c with
  | .ok (items, r) c' => .ok (.array items r) c'
  | .backtrack e => .backtrack e
  | .cut e => .cut e

/-- A key-value pair of an inline table, with the value read by `item`. -/
def inlinePair (item : Parser Node) : Parser (List Key × Key × Node) := do
  let path ← key
  cutErr do
    withContext (.expected (expectedChar '='))
      (withContext (.expected (expectedChar '.')) (char '='))
    let _ ← ws
    let v ← item
    let _ ← ws
    pure (path.dropLast, (path.getLast?.getD ⟨"", "", ⟨0, 0⟩⟩), v)

/-- An inline table whose values are read by `item`. -/
def inlineTableWith (item : Option (Parser Node)) : Parser Node := fun c =>
  let body := nested item fun inner => fun c =>
    let pairs : Parser (List (List Key × Key × Node)) := do
      let pairs ← sepBy (inlinePair inner) (char ',')
      let _ ← ws
      pure pairs
    match pairs c with
    | .ok ps c' =>
      match inlineEntries ps with
      | .ok entries => .ok entries c'
      | .error clash => .backtrack { offset := c.offset, cause := some clash.message }
    | .backtrack e => .backtrack e
    | .cut e => .cut e
  let p : Parser (List (Key × Node)) := do
    char '{'
    let entries ← cutErr body
    withContext (.expected (expectedChar '}'))
      (withContext (.expression "inline table") (cutErr (char '}')))
    pure entries
  match spanned p c with
  | .ok (entries, r) c' => .ok (.inlineTable entries false (some r)) c'
  | .backtrack e => .backtrack e
  | .cut e => .cut e

/-- A value whose arrays and inline tables hold values read by `item`. -/
def valueWith (item : Option (Parser Node)) : Parser Node := fun c =>
  let p : Parser Node := match c.rest.head? with
    | some '"' | some '\x27' => do
      let (s, r) ← spanned string
      pure (.string s r)
    | some '[' => arrayWith item
    | some '{' => inlineTableWith item
    | some ch =>
      if ch = '+' || ch = '-' || isDigit ch then
        firstOf [
          (do let ((), r) ← spanned dateTime; pure (.datetime r)),
          (do let (s, r) ← spanned float; pure (.float s r)),
          (do let (n, r) ← spanned integer; pure (.integer n r))]
      else if ch = '_' then
        withContext (.expected "leading digit") (do let (n, r) ← spanned integer; pure (.integer n r))
      else if ch = '.' then
        withContext (.expected "leading digit") (do let (s, r) ← spanned float; pure (.float s r))
      else if ch = 't' then
        notAValue (do let ((), r) ← spanned (word "true"); pure (.boolean true r))
      else if ch = 'f' then
        notAValue (do let ((), r) ← spanned (word "false"); pure (.boolean false r))
      else if ch = 'i' then
        notAValue (do let ((), r) ← spanned (literal "inf"); pure (.float (.infinite false) r))
      else if ch = 'n' then
        notAValue (do let ((), r) ← spanned (literal "nan"); pure (.float .nan r))
      else notAValue fail
    | none => fail
  p c

/-- A value in which arrays and inline tables may nest `room` deep. -/
def value : Nat → Parser Node
  | 0 => valueWith none
  | room + 1 => valueWith (some (value room))

end RegexHighlight.Toml
