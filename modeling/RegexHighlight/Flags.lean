import RegexHighlight.Text.Quoted

/-!
# Flags and modes

A pattern is classified under a `Mode`: the eight flags that may follow a regex literal,
`d g i m s u v y`. Only `u` changes classification; the others are kept so that a mode always
prints back as the flag string it came from.

`Mode.parse` reads a flag string left to right. The first character that is no flag is
`unrecognized`, the first flag given twice is `repeated`, and only a string that passes both
checks is refused for holding `v`, whose mode (Unicode sets) is not supported. `Mode.flags`
writes the set flags in the canonical order `dgimsuvy`.
-/

namespace RegexHighlight

/-- One of the eight regex flags. -/
inductive Flag
  /-- `d`: match indices. -/
  | hasIndices
  /-- `g`: global search. -/
  | global
  /-- `i`: case-insensitive matching. -/
  | ignoreCase
  /-- `m`: multi-line anchors. -/
  | multiline
  /-- `s`: the dot matches line terminators. -/
  | dotAll
  /-- `u`: Unicode-aware syntax. -/
  | unicode
  /-- `v`: Unicode sets. -/
  | unicodeSets
  /-- `y`: sticky matching. -/
  | sticky
deriving DecidableEq, Repr

namespace Flag

/-- Every flag, in canonical order. -/
def all : List Flag :=
  [.hasIndices, .global, .ignoreCase, .multiline, .dotAll, .unicode, .unicodeSets, .sticky]

/-- The letter that writes a flag. -/
def letter : Flag → Char
  | .hasIndices => 'd'
  | .global => 'g'
  | .ignoreCase => 'i'
  | .multiline => 'm'
  | .dotAll => 's'
  | .unicode => 'u'
  | .unicodeSets => 'v'
  | .sticky => 'y'

/-- The flag a letter writes, if any. -/
def ofChar? (c : Char) : Option Flag :=
  all.find? (·.letter = c)

end Flag

/-- The flags a pattern is classified with. -/
structure Mode where
  hasIndices : Bool := false
  global : Bool := false
  ignoreCase : Bool := false
  multiline : Bool := false
  dotAll : Bool := false
  unicode : Bool := false
  unicodeSets : Bool := false
  sticky : Bool := false
deriving DecidableEq, Repr

namespace Mode

/-- Whether the mode has a flag. -/
def get (m : Mode) : Flag → Bool
  | .hasIndices => m.hasIndices
  | .global => m.global
  | .ignoreCase => m.ignoreCase
  | .multiline => m.multiline
  | .dotAll => m.dotAll
  | .unicode => m.unicode
  | .unicodeSets => m.unicodeSets
  | .sticky => m.sticky

/-- The mode with one flag turned on or off. -/
def set (m : Mode) (f : Flag) (on : Bool) : Mode :=
  match f with
  | .hasIndices => { m with hasIndices := on }
  | .global => { m with global := on }
  | .ignoreCase => { m with ignoreCase := on }
  | .multiline => { m with multiline := on }
  | .dotAll => { m with dotAll := on }
  | .unicode => { m with unicode := on }
  | .unicodeSets => { m with unicodeSets := on }
  | .sticky => { m with sticky := on }

/-- Patterns are read with the Unicode-aware rules under `u`, and under `v`, which extends it. -/
def unicodeAware (m : Mode) : Bool := m.unicode || m.unicodeSets

/-- The flag string of a mode: its set flags in the order `dgimsuvy`. -/
def flags (m : Mode) : String :=
  String.ofList ((Flag.all.filter m.get).map Flag.letter)

end Mode

/-- What is wrong with a flag string. -/
inductive FlagProblem
  /-- A character that is no flag. -/
  | unrecognized (c : Char)
  /-- A flag given a second time. -/
  | repeated (c : Char)
  /-- A flag whose mode is not supported (only `v`). -/
  | unsupported (c : Char)
deriving DecidableEq, Repr

/-- A flag string that cannot be used, with the problem found in it. -/
structure FlagError where
  problem : FlagProblem
  flags : String
deriving DecidableEq, Repr

namespace FlagProblem

/-- The character a problem is about. -/
def char : FlagProblem → Char
  | .unrecognized c => c
  | .repeated c => c
  | .unsupported c => c

/-- The wording of a problem. -/
def message : FlagProblem → String
  | .unrecognized c => s!"unrecognized flag '{Text.escapeDebug c}'"
  | .repeated c => s!"flag '{c}' is given more than once"
  | .unsupported c => s!"flag '{c}' is not supported"

end FlagProblem

/-- The wording of a flag error, which names the whole flag string. -/
def FlagError.message (e : FlagError) : String :=
  s!"invalid regex flags '{e.flags}': {e.problem.message}"

namespace Mode

/-- Reads the flags in `cs` onto `m`, where `seen` holds the flags read so far; `flags` is the
whole string, named in an error. -/
def parseFrom (flags : String) : List Char → List Flag → Mode → Except FlagError Mode
  | [], _, m =>
    if m.unicodeSets then .error ⟨.unsupported 'v', flags⟩ else .ok m
  | c :: cs, seen, m =>
    match Flag.ofChar? c with
    | none => .error ⟨.unrecognized c, flags⟩
    | some f =>
      if f ∈ seen then .error ⟨.repeated c, flags⟩
      else parseFrom flags cs (f :: seen) (m.set f true)

/-- The mode a flag string asks for. -/
def parse (flags : String) : Except FlagError Mode :=
  parseFrom flags flags.toList [] {}

end Mode

end RegexHighlight
