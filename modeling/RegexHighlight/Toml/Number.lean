import RegexHighlight.Toml.Scan

/-!
# TOML numbers, dates and times

Integers are decimal (with an optional sign), or hexadecimal, octal or binary after `0x`, `0o`
or `0b`; digits may be grouped by single underscores. Floats have a fraction, an exponent or
both, or are `inf` or `nan` with an optional sign. A float stands for the double nearest to
it. Dates and times are read to tell them apart from numbers, and their fields are range-checked.
-/

namespace RegexHighlight.Toml

open RegexHighlight.Toml.Parser

/-- A run of digits of `digit`, where single underscores may separate two digits. -/
def groupedDigits (digit : Char → Bool) : Parser Unit := do
  let _ ← many (orElse (do let _ ← satisfy digit; pure ())
    (do char '_'; let _ ← withContext (.expected "digit") (cutErr (satisfy digit)); pure ()))
  pure ()

/-- A decimal integer as written: an optional sign, then `0` or digits not starting with `0`. -/
def decimalInteger : Parser (List Char) :=
  withContext (.expression "integer") (recognize do
    let _ ← optional (satisfy fun c => c = '+' || c = '-')
    orElse (do let _ ← satisfy fun c => '1' ≤ c && c ≤ '9'; groupedDigits isDigit)
      (do let _ ← satisfy isDigit; pure ()))

/-- Digits that may start with `0`. -/
def leadingZeroDigits : Parser Unit := do
  let _ ← satisfy isDigit
  groupedDigits isDigit

/-- The fraction of a float. -/
def fraction : Parser Unit := do
  char '.'
  withContext (.expected "digit") (cutErr leadingZeroDigits)

/-- The exponent of a float. -/
def exponent : Parser Unit := do
  let _ ← satisfy fun c => c = 'e' || c = 'E'
  let _ ← optional (satisfy fun c => c = '+' || c = '-')
  cutErr leadingZeroDigits

/-- The value of decimal digits. -/
def decimalValue (cs : List Char) : Nat :=
  cs.foldl (fun n c => n * 10 + (c.toNat - '0'.toNat)) 0

/-- The largest magnitude a signed 64-bit integer reaches, by sign. -/
def int64Bound (negative : Bool) : Nat := if negative then 9223372036854775808 else 9223372036854775807

/-- The integer a signed decimal text stands for, or why it does not fit in 64 bits. -/
def readDecimal (cs : List Char) : Except String Int :=
  let digits := cs.filter (· ≠ '_')
  let (negative, digits) := match digits with
    | '-' :: ds => (true, ds)
    | '+' :: ds => (false, ds)
    | ds => (false, ds)
  let n := decimalValue digits
  if n > int64Bound negative then
    .error (if negative then "number too small to fit in target type"
      else "number too large to fit in target type")
  else .ok (if negative then -(n : Int) else n)

/-- The integer a text of digits in `radix` stands for, or why it does not fit in 64 bits. -/
def readRadix (radix : Nat) (cs : List Char) : Except String Int :=
  let n := (cs.filter (· ≠ '_')).foldl (fun n c => n * radix + hexValue [c]) 0
  if n > int64Bound false then .error "number too large to fit in target type" else .ok n

/-- An integer with a radix prefix. -/
def prefixedInteger (pre : String) (radix : Nat) (digit : Char → Bool) (what : String) :
    Parser Int :=
  cutErr (tryMap
    (withContext (.expression what) do
      literal pre
      recognize (cutErr (do let _ ← satisfy digit; groupedDigits digit)))
    (readRadix radix))

/-- An integer. -/
def integer : Parser Int := fun c =>
  match c.rest.take 2 with
  | ['0', 'x'] => prefixedInteger "0x" 16 isHexDigit "hexadecimal integer" c
  | ['0', 'o'] => prefixedInteger "0o" 8 (fun d => '0' ≤ d && d ≤ '7') "octal integer" c
  | ['0', 'b'] => prefixedInteger "0b" 2 (fun d => d = '0' || d = '1') "binary integer" c
  | _ =>
    match decimalInteger c with
    | .ok text c' =>
      match readDecimal text with
      | .ok n => .ok n c'
      | .error why => .cut { offset := c.offset, cause := some why }
    | .backtrack e => .backtrack e
    | .cut e => .cut e

/-- The digits and power of ten of a decimal float text: `12.5e3` is `125` and `2`. -/
def floatParts (cs : List Char) : Bool × List Char × Int :=
  let cs := cs.filter (· ≠ '_')
  let (negative, cs) := match cs with
    | '-' :: rest => (true, rest)
    | '+' :: rest => (false, rest)
    | rest => (false, rest)
  let mantissa := cs.takeWhile fun c => c ≠ 'e' && c ≠ 'E'
  let exp := (cs.dropWhile fun c => c ≠ 'e' && c ≠ 'E').drop 1
  let expValue : Int := match exp with
    | '-' :: ds => -(decimalValue ds : Int)
    | '+' :: ds => decimalValue ds
    | ds => decimalValue ds
  let whole := mantissa.takeWhile (· ≠ '.')
  let frac := (mantissa.dropWhile (· ≠ '.')).drop 1
  (negative, whole ++ frac, expValue - frac.length)

/-- A float written with a fraction or an exponent, as text. -/
def decimalFloat : Parser (List Char) :=
  recognize do
    let _ ← decimalInteger
    orElse exponent (do fraction; let _ ← optional exponent; pure ())

/-- The double a float with a fraction or an exponent stands for. -/
def readFloat (text : List Char) : Binary64 :=
  let (negative, digits, power) := floatParts text
  Binary64.ofDecimal negative (decimalValue digits) power

/-- `inf` or `nan` with an optional sign. -/
def specialFloat : Parser Binary64 := do
  let sign ← optional (satisfy fun c => c = '+' || c = '-')
  orElse (do literal "inf"; pure (.infinite (sign = some '-')))
    (do literal "nan"; pure .nan)

/-- A float. One too large for a double is refused, unless it is negative and reads as
negative infinity. -/
def float : Parser Binary64 :=
  withContext (.expression "floating-point number")
    (orElse (fun c =>
      match decimalFloat c with
      | .ok text c' =>
        match readFloat text with
        | .infinite false => .cut { offset := c.offset }
        | x => .ok x c'
      | .backtrack e => .backtrack e
      | .cut e => .cut e)
      specialFloat)

/-- Exactly `n` digits, as a number. -/
def fixedDigits (n : Nat) : Parser Nat := do
  let ds ← takeBetween isDigit n (some n)
  pure (decimalValue ds)

/-- Exactly `n` digits, as a number within `low` and `high`. -/
def digitsWithin (n low high : Nat) : Parser Nat :=
  tryMap (fixedDigits n) fun v => if low ≤ v && v ≤ high then .ok v else .error "value is out of range"

/-- A date: year, month and day. -/
def fullDate : Parser Unit := do
  let _ ← fixedDigits 4
  char '-'
  cutErr do
    let _ ← digitsWithin 2 1 12
    char '-'
    let _ ← digitsWithin 2 1 31
    pure ()

/-- The fraction of a second. -/
def secondFraction : Parser Unit := do
  char '.'
  let _ ← takeWhile1 isDigit
  pure ()

/-- A time of day: hours, minutes, seconds and a fraction of a second. -/
def partialTime : Parser Unit := do
  let _ ← digitsWithin 2 0 23
  char ':'
  cutErr do
    let _ ← digitsWithin 2 0 59
    char ':'
    let _ ← digitsWithin 2 0 60
    let _ ← optional secondFraction
    pure ()

/-- The offset of a time from UTC. -/
def timeOffset : Parser Unit :=
  withContext (.expression "time offset")
    (orElse (do let _ ← satisfy fun c => c = 'Z' || c = 'z'; pure ())
      (do
        let _ ← satisfy fun c => c = '+' || c = '-'
        cutErr do
          let _ ← digitsWithin 2 0 23
          char ':'
          let _ ← digitsWithin 2 0 59
          pure ()))

/-- A date, a time, or both. A problem is worded as one with a date-time when the value starts
with a date, and as one with a time otherwise. -/
def dateTime : Parser Unit :=
  orElse
    (withContext (.expression "date-time") do
      fullDate
      let _ ← optional (do
        let _ ← satisfy fun c => c = 'T' || c = 't' || c = ' '
        partialTime
        let _ ← optional timeOffset
        pure ())
      pure ())
    (withContext (.expression "time") partialTime)

end RegexHighlight.Toml
