import RegexHighlight.Classify
import RegexHighlight.Tiling
import RegexHighlight.Fuzz.Unstructured

/-!
# Fuzz targets

Two properties are checked on arbitrary input. `classifyTarget` reads the bytes as a pattern
(skipping input that is not UTF-8) and checks that classification under both the legacy and
the Unicode-aware rules tiles it. `flagsTarget` reads a pattern and a flag string; when the
flags are accepted it checks that the piece texts concatenate to the pattern and that the mode
reads back from its own flag string. A target returns whether its checks hold.
-/

namespace RegexHighlight.Fuzz

/-- The check on raw bytes read as one pattern. -/
def classifyTarget (data : List UInt8) : Bool :=
  match Utf8.decode data with
  | .error _ => true
  | .ok pattern =>
    [({} : Mode), { unicode := true }].all fun mode =>
      match classify pattern mode with
      | .ok pieces => Tiles pattern pieces
      | .error _ => false

/-- The check on raw bytes read as a pattern and a flag string. -/
def flagsTarget (data : List UInt8) : Bool :=
  let (pattern, rest) := string data
  match restString rest with
  | none => true
  | some flags =>
    match classifyWithFlags pattern flags with
    | .error _ => true
    | .ok pieces =>
      String.join (pieces.map Piece.text) == pattern &&
        match Mode.parse flags with
        | .ok mode =>
          match Mode.parse mode.flags with
          | .ok again => again == mode
          | .error _ => false
        | .error _ => false

end RegexHighlight.Fuzz
