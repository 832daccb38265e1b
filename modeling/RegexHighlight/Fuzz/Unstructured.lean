import RegexHighlight.Text.Utf8

/-!
# Structured values from raw bytes

A fuzzer hands over raw bytes; a target that wants a pattern and a flag string reads them out
of those bytes. The reading takes the length of the first string from the *end* of the input
(one byte while at most 256 bytes remain, then two, then four), reduced into the range of the
bytes left, takes that many bytes from the front and keeps their longest valid UTF-8 prefix.
The last field takes every byte that remains and must be valid UTF-8 as a whole.
-/

namespace RegexHighlight.Fuzz

/-- Bytes not yet read. -/
abbrev Unstructured := List UInt8

/-- A number read from up to `width` bytes, big-endian, reduced into `0 ..= most`. -/
def rangeValue (most : Nat) (bytes : List UInt8) (width : Nat) : Nat :=
  if most = 0 then 0
  else
    let used := (List.range width).filter (fun k => most / Nat.pow 256 k > 0) |>.length
    let value := (bytes.take used).foldl (fun n b => n * 256 + b.toNat) 0
    if most + 1 = Nat.pow 256 width then value else value % (most + 1)

/-- Reads a byte count from the end of the input, and the input left before it. -/
def byteSize (u : Unstructured) : Nat × Unstructured :=
  if u.length ≤ 1 then (0, [])
  else
    let width := if u.length ≤ 256 then 1 else if u.length ≤ 65537 then 2 else 4
    let most := u.length - width
    (rangeValue most (u.drop most) width, u.take most)

/-- Reads a string field that is not the last one. -/
def string (u : Unstructured) : String × Unstructured :=
  let (size, u) := byteSize u
  let taken := u.take size
  match Utf8.decode taken with
  | .ok s => (s, u.drop size)
  | .error e => (Utf8.decodePrefix taken, u.drop e.validUpTo)

/-- Reads the last string field from every remaining byte. -/
def restString (u : Unstructured) : Option String :=
  match Utf8.decode u with
  | .ok s => some s
  | .error _ => none

end RegexHighlight.Fuzz
