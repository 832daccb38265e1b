import RegexHighlight.Toml.Value

/-!
# TOML documents

A document is read line by line: comments, blank lines, `key = value` pairs and table
headers. Pairs go into the table opened by the last header (the root table before any), and
the table is put in its place when the next header opens or the document ends. Defining a key
twice, reopening a table, or extending a value with a dotted key are problems; a problem found
while a header or pair is read is reported where that header or pair starts, and one found
when the last table is put in its place is reported at the end of the document.
-/

namespace RegexHighlight.Toml

open RegexHighlight.Toml.Parser

/-- Replaces the node under a key. -/
def replaceEntry (entries : List (Key × Node)) (name : String) (n : Node) : List (Key × Node) :=
  entries.map fun e => if e.1.name == name then (e.1, n) else e

/-- Applies `f` to the table reached from a table with `entries` by the keys `rest`, making
implicit tables on the way, which are dotted when `dotted` is set. Arrays of tables are entered
at their last table. `above` are the keys already walked, for the wording of problems. `f` is
given the entries of the table reached and whether that table was made by a dotted key. -/
def descend {β : Type} (dotted : Bool)
    (f : List (Key × Node) → Bool → Except Clash (List (Key × Node) × β)) :
    List Key → List Key → List (Key × Node) → Bool → Except Clash (List (Key × Node) × β)
  | _, [], entries, isDotted => f entries isDotted
  | above, k :: ks, entries, _ =>
    let entries := if entries.any (·.1.name == k.name) then entries
      else entries ++ [(k, .table [] true dotted none)]
    match entries.find? (·.1.name == k.name) with
    | some (_, .table inner implicit d s) =>
      if dotted && !implicit then .error (.duplicateKey k.name none)
      else do
        let (inner, b) ← descend dotted f (above ++ [k]) ks inner d
        .ok (replaceEntry entries k.name (.table inner implicit d s), b)
    | some (_, .tables items s) =>
      match items.getLast? with
      | some (.table inner implicit d ts) => do
        let (inner, b) ← descend dotted f (above ++ [k]) ks inner d
        .ok (replaceEntry entries k.name (.tables (items.dropLast ++ [.table inner implicit d ts]) s), b)
      | _ => .error (.duplicateKey k.name none)
    | some (_, other) => .error (.extendsValue (above ++ [k]) other.typeName)
    | none => .error (.duplicateKey k.name none)

/-- The range covered by the tables of an array of tables. -/
def tablesSpan (items : List Node) : Option Range :=
  match items.head?.bind Node.span?, items.getLast?.bind Node.span? with
  | some first, some last => some ⟨first.start, last.stop⟩
  | _, _ => none

/-- A document under construction: the finished part with the range of the root table, and
the table being filled with its range and the header path that opened it (none for the root
table). A table's range runs from its header, or the start of the document for the root
table, to the end of the last value put in it directly or through dotted keys. -/
structure Builder where
  root : List (Key × Node) := []
  rootSpan : Option Range := none
  current : List (Key × Node) := []
  span : Option Range := some ⟨0, 0⟩
  path : List Key := []
  isArray : Bool := false
deriving Repr

namespace Builder

/-- Adds `key = value` to the current table; `path` holds the keys before the last one. -/
def keyval (b : Builder) (path : List Key) (k : Key) (v : Node) : Except Clash Builder := do
  let span := match b.span, v.span? with
    | some s, some vs => some ⟨s.start, vs.stop⟩
    | s, _ => s
  let (current, ()) ← descend true (fun entries isDotted =>
      if isDotted == path.isEmpty then .error (.duplicateKey k.name none)
      else if entries.any (·.1.name == k.name) then .error (.duplicateKey k.name (some b.path))
      else .ok (entries ++ [(k, v)], ())) [] path b.current false
  pure { b with current, span }

/-- Puts the current table in its place. -/
def finish (b : Builder) : Except Clash Builder :=
  let done : Builder := { root := b.root, rootSpan := b.rootSpan }
  match b.path.getLast? with
  | none => pure { done with root := b.current, rootSpan := b.span }
  | some k =>
    let table := Node.table b.current false false b.span
    let clash := Clash.header b.path (b.path.length - 1)
    if b.isArray then do
      let (root, ()) ← descend false (fun entries _ =>
        match entries.find? (·.1.name == k.name) with
        | none => .ok (entries ++ [(k, .tables [table] (tablesSpan [table]))], ())
        | some (_, .tables items _) =>
          let items := items ++ [table]
          .ok (replaceEntry entries k.name (.tables items (tablesSpan items)), ())
        | some _ => .error clash) [] b.path.dropLast b.root false
      pure { done with root }
    else do
      let (root, ()) ← descend false (fun entries _ =>
        match entries.find? (·.1.name == k.name) with
        | none => .ok (entries ++ [(k, table)], ())
        | some (_, .table _ true _ _) => .ok (replaceEntry entries k.name table, ())
        | some _ => .error clash) [] b.path.dropLast b.root false
      pure { done with root }

/-- Opens the table `[path]`, which takes over the contents of an implicit table there. -/
def openTable (b : Builder) (path : List Key) (span : Range) : Except Clash Builder := do
  let name := (path.getLast?.map Key.name).getD ""
  let (root, adopted) ← descend false (fun entries _ =>
    match entries.find? (·.1.name == name) with
    | none => .ok (entries, [])
    | some (_, .table inner true false _) => .ok (entries.filter (·.1.name != name), inner)
    | some _ => .error (Clash.header path (path.length - 1))) [] path.dropLast b.root false
  pure { b with root, current := adopted, span := some span, path, isArray := false }

/-- Opens a new table of the array of tables `[[path]]`. -/
def openArrayTable (b : Builder) (path : List Key) (span : Range) : Except Clash Builder := do
  let last := path.getLast?
  let name := (last.map Key.name).getD ""
  let (root, ()) ← descend false (fun entries _ =>
    match entries.find? (·.1.name == name), last with
    | none, some k => .ok (entries ++ [(k, .tables [] none)], ())
    | some (_, .tables _ _), _ => .ok (entries, ())
    | _, _ => .error (Clash.header path (path.length - 1))) [] path.dropLast b.root false
  pure { b with root, current := [], span := some span, path, isArray := true }

end Builder

/-- How deep arrays and inline tables may nest inside a value. -/
def valueRoom : Nat := nestingLimit - 1

/-- Applies a change of the builder that a header or pair asks for; a problem is reported
where the header or pair started. -/
def applyAt {α : Type} (p : Parser α) (f : α → Except Clash Builder) : Parser Builder := fun c =>
  match p c with
  | .ok a c' =>
    match f a with
    | .ok b => .ok b c'
    | .error clash => .backtrack { offset := c.offset, cause := some clash.message }
  | .backtrack e => .backtrack e
  | .cut e => .cut e

/-- What may follow a header or pair on its line. -/
def endOfLine : Parser Unit :=
  withContext (.expected (expectedChar '#')) (withContext (.expected (expectedChar '\n'))
    (cutErr lineTrailing))

/-- A `[table]` header. -/
def tableHeader (b : Builder) : Parser Builder :=
  applyAt
    (do
      let r ← spanned (do
        char '['
        let path ← cutErr key
        withContext (.expected (expectedText "]"))
          (withContext (.expected (expectedChar '.')) (cutErr (char ']')))
        pure path)
      endOfLine
      pure r)
    fun (path, span) => do
      let b ← b.finish
      b.openTable path span

/-- An `[[array of tables]]` header. -/
def arrayHeader (b : Builder) : Parser Builder :=
  applyAt
    (do
      let r ← spanned (do
        literal "[["
        let path ← cutErr key
        withContext (.expected (expectedText "]]"))
          (withContext (.expected (expectedChar '.')) (cutErr (literal "]]")))
        pure path)
      endOfLine
      pure r)
    fun (path, span) => do
      let b ← b.finish
      b.openArrayTable path span

/-- A header of either kind. -/
def header (b : Builder) : Parser Builder :=
  withContext (.expression "table header") fun c =>
    match c.rest.take 2 with
    | ['[', '['] => arrayHeader b c
    | [_, _] => tableHeader b c
    | _ => .backtrack { offset := c.offset }

/-- A `key = value` pair. -/
def pair (b : Builder) : Parser Builder :=
  applyAt
    (do
      let path ← key
      cutErr do
        withContext (.expected (expectedChar '='))
          (withContext (.expected (expectedChar '.')) (char '='))
        let _ ← ws
        let v ← value valueRoom
        withContext (.expected (expectedChar '#')) (withContext (.expected (expectedChar '\n'))
          lineTrailing)
        pure (path, v))
    fun (path, v) =>
      match path.getLast? with
      | some k => b.keyval path.dropLast k v
      | none => .ok b

/-- The lines of a document, at most `fuel` of them. -/
def lines : Nat → Builder → Parser Builder
  | 0, b => pure b
  | fuel + 1, b => fun c =>
    let line : Parser Builder := match c.rest.head? with
      | some '#' => cutErr (do comment; lineEnding; pure b)
      | some '[' => cutErr (header b)
      | some '\n' | some '\r' => do newline; pure b
      | some _ => cutErr (pair b)
      | none => fail
    match (do let b ← line; let _ ← ws; pure b : Parser Builder) c with
    | .ok b' c' => if c'.offset = c.offset then .ok b' c' else lines fuel b' c'
    | .backtrack _ => .ok b c
    | .cut e => .cut e

/-- Reads a document into its root table. -/
def parseDocument (source : String) : Except Problem Node :=
  let start := Cursor.ofString source
  let start := if start.rest.head? = some '\uFEFF' then start.advance else start
  let whole : Parser Builder := do
    let _ ← ws
    let b ← lines (start.rest.length + 1) {}
    eof
    pure b
  match whole start with
  | .ok b done =>
    match b.finish with
    | .ok b => .ok (.table b.root false false b.rootSpan)
    | .error clash => .error { offset := done.offset, cause := some clash.message }
  | .backtrack e => .error e
  | .cut e => .error e

end RegexHighlight.Toml
