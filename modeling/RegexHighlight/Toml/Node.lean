import RegexHighlight.Binary64

/-!
# TOML documents

A parsed TOML document is a tree of nodes. Every node remembers the byte range of the source it
was read from, so that a later problem with its contents can point at it. Tables come in three
kinds: tables opened by a `[header]` (or made implicitly on the way to one, or by a dotted
key), inline tables written `{ ... }`, and arrays of tables, each element opened by a
`[[header]]`.
-/

namespace RegexHighlight.Toml

/-- A byte range of a document. -/
structure Range where
  start : Nat
  stop : Nat
deriving DecidableEq, Repr

/-- A key as written: its name, its source text and where it stands. -/
structure Key where
  name : String
  raw : String
  span : Range
deriving DecidableEq, Repr

/-- A node of a document. -/
inductive Node where
  | string (value : String) (span : Range)
  | integer (value : Int) (span : Range)
  | float (value : Binary64) (span : Range)
  | boolean (value : Bool) (span : Range)
  | datetime (span : Range)
  | array (items : List Node) (span : Range)
  /-- An inline table; `dotted` when it was made by a dotted key inside another one. -/
  | inlineTable (entries : List (Key × Node)) (dotted : Bool) (span : Option Range)
  /-- A table; `implicit` when no header opened it, `dotted` when a dotted key made it. -/
  | table (entries : List (Key × Node)) (implicit dotted : Bool) (span : Option Range)
  /-- An array of tables. -/
  | tables (items : List Node) (span : Option Range)
deriving Repr

namespace Node

/-- Where a node was read from, when it was read at all. -/
def span? : Node → Option Range
  | .string _ s | .integer _ s | .float _ s | .boolean _ s | .datetime s | .array _ s => some s
  | .inlineTable _ _ s | .table _ _ _ s | .tables _ s => s

/-- The name of the type of a value, as problems with it say it. -/
def typeName : Node → String
  | .string .. => "string"
  | .integer .. => "integer"
  | .float .. => "float"
  | .boolean .. => "boolean"
  | .datetime .. => "datetime"
  | .array .. => "array"
  | .inlineTable .. => "inline table"
  | .table .. => "table"
  | .tables .. => "array of tables"

end Node

/-- Whether a key can be written bare. -/
def isBareKeyChar (c : Char) : Bool := c.isAlphanum || c = '-' || c = '_'

/-- A character of a key written as a quoted string. -/
def quotedKeyChar (c : Char) : String :=
  match c with
  | '\x08' => "\\b"
  | '\t' => "\\t"
  | '\n' => "\\n"
  | '\x0c' => "\\f"
  | '\r' => "\\r"
  | '"' => "\\\""
  | '\\' => "\\\\"
  | c =>
    if c.toNat < 0x20 || c.toNat = 0x7f then
      let hex := Nat.toDigits 16 c.toNat
      "\\u" ++ String.ofList (List.replicate (4 - hex.length) '0' ++ hex.map Char.toUpper)
    else c.toString

/-- How a key is shown in a problem: bare when it can be, quoted otherwise. -/
def Key.shown (k : Key) : String :=
  if !k.name.isEmpty && k.name.all isBareKeyChar then k.name
  else "\"" ++ String.join (k.name.toList.map quotedKeyChar) ++ "\""

/-- A dotted key path, as problems show it. -/
def pathText (path : List Key) : String := ".".intercalate (path.map Key.name)

/-- A problem with the structure of a document: a key defined twice, or a dotted key that
runs into a value that is not a table. -/
inductive Clash
  | duplicateKey (key : String) (table : Option (List Key))
  | extendsValue (path : List Key) (actual : String)
deriving Repr

/-- The wording of a structural problem. -/
def Clash.message : Clash → String
  | .duplicateKey key none => s!"duplicate key `{key}`"
  | .duplicateKey key (some []) => s!"duplicate key `{key}` in document root"
  | .duplicateKey key (some path) => s!"duplicate key `{key}` in table `{pathText path}`"
  | .extendsValue path actual =>
    s!"dotted key `{pathText path}` attempted to extend non-table type ({actual})"

/-- The clash of a header that names a key already defined: `path` up to its `i`-th key. -/
def Clash.header (path : List Key) (i : Nat) : Clash :=
  .duplicateKey ((path[i]?.map Key.shown).getD "") (some (path.take i))

end RegexHighlight.Toml
