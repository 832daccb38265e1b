import RegexHighlight.Suite.Test
import RegexHighlight.Toml.Error

/-!
# Reading tests from a TOML document

The tests of a document are the tables of its top-level `test` array; other top-level keys are
ignored. A test table may have the keys `name`, `pattern`, `flags`, `spans` and `rejected`,
and must have `pattern`. Each of `name`, `pattern`, `flags` and `rejected` is a string, and
`spans` an array of `[category, text]` pairs (further items of a pair are ignored). A test may
also be written as an array holding the five fields in that order, where `name`, `flags` and
`spans` may be left off the end.

Problems are worded as a value of one type found where another was expected, a missing or
unknown field, or a pair of the wrong length, and point at the value (or key) concerned; a
problem with a value that has no place of its own in the source, such as a table made by a
dotted key, points at the table or array holding it.
-/

namespace RegexHighlight.Suite

open RegexHighlight.Toml

/-- A problem reading a value. -/
def problemAt (n : Node) (message : String) : Error := { span := n.span?, message }

/-- Points the problems of `r` at `span` when they point nowhere yet. -/
def pointAt {α : Type} (span : Option Range) (r : Except Error α) : Except Error α :=
  r.mapError fun (e : Error) => e.within span

/-- How a value is described when it is not what was expected. -/
def unexpected : Node → String
  | .string s _ => "string " ++ Text.quote s
  | .integer n _ => s!"integer \x60{n}\x60"
  | .float x _ => "floating point \x60" ++ x.displayWithPoint ++ "\x60"
  | .boolean b _ => s!"boolean \x60{b}\x60"
  | .array .. | .tables .. => "sequence"
  | .datetime .. | .inlineTable .. | .table .. => "map"

/-- The problem of a value of the wrong type. -/
def invalidType (n : Node) (expected : String) : Error :=
  problemAt n s!"invalid type: {unexpected n}, expected {expected}"

/-- The problem of a sequence of the wrong length. -/
def invalidLength (n : Node) (len : Nat) (expected : String) : Error :=
  problemAt n s!"invalid length {len}, expected {expected}"

/-- Reads a string. -/
def readString (n : Node) : Except Error String :=
  match n with
  | .string s _ => .ok s
  | n => .error (invalidType n "a string")

/-- The items of an array or array of tables. -/
def items? : Node → Option (List Node)
  | .array items _ | .tables items _ => some items
  | _ => none

/-- The entries of a table or inline table. -/
def entries? : Node → Option (List (Key × Node))
  | .inlineTable entries _ _ | .table entries _ _ _ => some entries
  | _ => none

/-- Reads a sequence whose items are read by `item`. -/
def readSeq {α : Type} (item : Node → Except Error α) (n : Node) : Except Error (List α) :=
  match items? n with
  | some items => pointAt n.span? (items.mapM fun i => pointAt i.span? (item i))
  | none => .error (invalidType n "a sequence")

/-- Reads a `[category, text]` pair. -/
def readPair (n : Node) : Except Error (String × String) :=
  let expected := "tuple struct ExpectedSpan with 2 elements"
  match items? n with
  | some items =>
    let read := fun (i : Nat) => match items[i]? with
      | some v => pointAt v.span? (readString v)
      | none => .error (invalidLength n i expected)
    pointAt n.span? do
      let category ← read 0
      let text ← read 1
      pure (category, text)
  | none => .error (invalidType n "tuple struct ExpectedSpan")

/-- The fields of a test. -/
def testFields : List String := ["name", "pattern", "flags", "spans", "rejected"]

/-- How the fields of a test are listed when an unknown one is found. -/
def fieldList : String := ", ".intercalate (testFields.map fun f => "\x60" ++ f ++ "\x60")

/-- The value of a field read so far. -/
structure Fields where
  name : Option String := none
  pattern : Option String := none
  flags : Option String := none
  spans : Option (List (String × String)) := none
  rejected : Option String := none

/-- Reads one field of a test table. -/
def readField (fs : Fields) (k : Key) (v : Node) : Except Error Fields :=
  let inKey {α : Type} (r : Except Error α) : Except Error α :=
    r.mapError fun (e : Error) => (e.within v.span?).under k.name
  match k.name with
  | "name" => do let s ← inKey (readString v); pure { fs with name := some s }
  | "pattern" => do let s ← inKey (readString v); pure { fs with pattern := some s }
  | "flags" => do let s ← inKey (readString v); pure { fs with flags := some s }
  | "spans" => do let s ← inKey (readSeq readPair v); pure { fs with spans := some s }
  | "rejected" => do let s ← inKey (readString v); pure { fs with rejected := some s }
  | other =>
    let message := s!"unknown field \x60{other}\x60, expected one of {fieldList}"
    .error { span := some k.span, message }

/-- Reads a test from a table, or from an array of its fields. -/
def readEntry (n : Node) : Except Error Entry :=
  match entries? n, items? n with
  | some entries, _ => pointAt n.span? do
    let fs ← entries.foldlM (fun fs (k, v) => readField fs k v) {}
    match fs.pattern with
    | none => .error (problemAt n "missing field \x60pattern\x60")
    | some pattern =>
      pure ⟨fs.name.getD "", pattern, fs.flags.getD "", fs.spans.getD [], fs.rejected⟩
  | none, some items =>
    let expected := "struct ColorizeTest with 5 elements"
    let field {α : Type} (i : Nat) (read : Node → Except Error α) (missing : Option α) :
        Except Error α :=
      match items[i]? with
      | some v => pointAt v.span? (read v)
      | none =>
        match missing with
        | some a => .ok a
        | none => .error (invalidLength n i expected)
    pointAt n.span? do
      let name ← field 0 readString (some "")
      let pattern ← field 1 readString none
      let flags ← field 2 readString (some "")
      let spans ← field 3 (readSeq readPair) (some [])
      let rejected ← field 4 (fun v => some <$> readString v) none
      pure { name, pattern, flags, spans, rejected : Entry }
  | none, none => .error (invalidType n "struct ColorizeTest")

/-- Reads the tests of a document from its root table. -/
def readEntries (root : Node) : Except Error (List Entry) :=
  pointAt root.span? <|
    ((entries? root).getD []).foldlM (fun acc (k, v) =>
      if k.name = "test" then
        (readSeq readEntry v).mapError fun (e : Error) => (e.within v.span?).under k.name
      else .ok acc) []

end RegexHighlight.Suite
