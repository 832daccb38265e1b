/-!
# UTF-8 lengths and decoding

Every offset this library reports is a UTF-8 byte offset, so the text of a span is measured
with `utf8Length`, the byte size of a list of characters. Its three simp lemmas say that it is
additive; everything else about offsets follows from them.

Byte input (test files given as raw bytes, fuzz inputs) is read by `Utf8.decode`. It follows
the Unicode rule of the maximal subpart: the decoder stops at the first byte that cannot
continue a well-formed sequence and reports where the valid prefix ends and how many bytes the
broken sequence spans, or that the input ended in the middle of a sequence.
-/

namespace RegexHighlight

/-- The number of bytes the characters of `cs` occupy in UTF-8. -/
def utf8Length : List Char → Nat
  | [] => 0
  | c :: cs => c.utf8Size + utf8Length cs

@[simp] theorem utf8Length_nil : utf8Length [] = 0 := rfl

@[simp] theorem utf8Length_cons (c : Char) (cs : List Char) :
    utf8Length (c :: cs) = c.utf8Size + utf8Length cs := rfl

@[simp] theorem utf8Length_append (xs ys : List Char) :
    utf8Length (xs ++ ys) = utf8Length xs + utf8Length ys := by
  induction xs with
  | nil => simp
  | cons c cs ih => simp [ih, Nat.add_assoc]

/-- A character takes at least one byte, so a non-empty list takes at least one. -/
theorem length_le_utf8Length (cs : List Char) : cs.length ≤ utf8Length cs := by
  induction cs with
  | nil => simp
  | cons c cs ih =>
    have := c.utf8Size_pos
    simp only [utf8Length_cons, List.length_cons]
    omega

namespace Utf8

/-- Why a byte sequence is not UTF-8: the valid prefix is `validUpTo` bytes long, and the
broken sequence after it is `errorLength` bytes long, or `none` when the input ends inside a
sequence that could still have been completed. -/
structure DecodeError where
  validUpTo : Nat
  errorLength : Option Nat
deriving DecidableEq, Repr

/-- The wording of a decoding failure. -/
def DecodeError.message : DecodeError → String
  | ⟨index, some len⟩ => s!"invalid utf-8 sequence of {len} bytes from index {index}"
  | ⟨index, none⟩ => s!"incomplete utf-8 byte sequence from index {index}"

/-- A continuation byte, `10xxxxxx`. -/
def isContinuation (b : UInt8) : Bool := 0x80 ≤ b && b ≤ 0xBF

/-- The scalar value of a two-byte sequence. -/
def twoByte (b0 b1 : UInt8) : Char :=
  Char.ofNat ((b0.toNat % 0x20) * 0x40 + b1.toNat % 0x40)

/-- The scalar value of a three-byte sequence. -/
def threeByte (b0 b1 b2 : UInt8) : Char :=
  Char.ofNat ((b0.toNat % 0x10) * 0x1000 + (b1.toNat % 0x40) * 0x40 + b2.toNat % 0x40)

/-- The scalar value of a four-byte sequence. -/
def fourByte (b0 b1 b2 b3 : UInt8) : Char :=
  Char.ofNat ((b0.toNat % 0x08) * 0x40000 + (b1.toNat % 0x40) * 0x1000 +
    (b2.toNat % 0x40) * 0x40 + b3.toNat % 0x40)

/-- Whether `b1` may follow the lead byte `b0` of a three-byte sequence: the range of the
second byte excludes overlong encodings after `E0` and surrogates after `ED`. -/
def secondOfThree (b0 b1 : UInt8) : Bool :=
  if b0 == 0xE0 then 0xA0 ≤ b1 && b1 ≤ 0xBF
  else if b0 == 0xED then 0x80 ≤ b1 && b1 ≤ 0x9F
  else isContinuation b1

/-- Whether `b1` may follow the lead byte `b0` of a four-byte sequence: the range of the
second byte excludes overlong encodings after `F0` and values above `10FFFF` after `F4`. -/
def secondOfFour (b0 b1 : UInt8) : Bool :=
  if b0 == 0xF0 then 0x90 ≤ b1 && b1 ≤ 0xBF
  else if b0 == 0xF4 then 0x80 ≤ b1 && b1 ≤ 0x8F
  else isContinuation b1

/-- Decodes `bytes`, which start `offset` bytes into the whole input, onto the characters
`acc` already decoded (in reverse). -/
def decodeFrom (offset : Nat) (acc : List Char) : List UInt8 → Except DecodeError (List Char)
  | [] => .ok acc.reverse
  | b0 :: rest =>
    if b0 < 0x80 then decodeFrom (offset + 1) (Char.ofNat b0.toNat :: acc) rest
    else if 0xC2 ≤ b0 && b0 ≤ 0xDF then
      match rest with
      | [] => .error ⟨offset, none⟩
      | b1 :: rest =>
        if isContinuation b1 then decodeFrom (offset + 2) (twoByte b0 b1 :: acc) rest
        else .error ⟨offset, some 1⟩
    else if 0xE0 ≤ b0 && b0 ≤ 0xEF then
      match rest with
      | [] => .error ⟨offset, none⟩
      | b1 :: rest =>
        if secondOfThree b0 b1 then
          match rest with
          | [] => .error ⟨offset, none⟩
          | b2 :: rest =>
            if isContinuation b2 then decodeFrom (offset + 3) (threeByte b0 b1 b2 :: acc) rest
            else .error ⟨offset, some 2⟩
        else .error ⟨offset, some 1⟩
    else if 0xF0 ≤ b0 && b0 ≤ 0xF4 then
      match rest with
      | [] => .error ⟨offset, none⟩
      | b1 :: rest =>
        if secondOfFour b0 b1 then
          match rest with
          | [] => .error ⟨offset, none⟩
          | b2 :: rest =>
            if isContinuation b2 then
              match rest with
              | [] => .error ⟨offset, none⟩
              | b3 :: rest =>
                if isContinuation b3 then
                  decodeFrom (offset + 4) (fourByte b0 b1 b2 b3 :: acc) rest
                else .error ⟨offset, some 3⟩
            else .error ⟨offset, some 2⟩
        else .error ⟨offset, some 1⟩
    else .error ⟨offset, some 1⟩

/-- Decodes a byte sequence as UTF-8, or reports the first broken sequence. -/
def decode (bytes : List UInt8) : Except DecodeError String :=
  (decodeFrom 0 [] bytes).map String.ofList

/-- The longest prefix of `bytes` that is valid UTF-8, decoded. -/
def decodePrefix (bytes : List UInt8) : String :=
  match decode bytes with
  | .ok s => s
  | .error e =>
    match decode (bytes.take e.validUpTo) with
    | .ok s => s
    | .error _ => ""

end Utf8

end RegexHighlight
