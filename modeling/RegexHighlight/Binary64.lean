/-!
# Double-precision values

A decimal literal stands for the double nearest to it, a tie going to the double whose mantissa
is even, and a double is shown as the shortest decimal that lies closer to it than to any
other double. Both are done here with exact integer arithmetic.

A finite double is `mantissa × 2^exponent` with the mantissa below `2^53`. Normal doubles have a
mantissa of at least `2^52` and an exponent from `-1074` to `971`; the subnormal ones and zero
have a smaller mantissa and the exponent `-1074`.

To show a positive double, the numbers between the halfway points to its neighbours are
searched for the one with the fewest significant digits, and among those the one nearest to
the double, a tie going up. The halfway points themselves count when the mantissa is even, and
always for subnormal doubles and powers of two. Below a power of two the gap to the next
double down is taken as half the gap above it, also at the smallest normal double.
-/

namespace RegexHighlight

/-- A double: a signed finite value `mantissa × 2^exponent`, a signed infinity, or not a
number. -/
inductive Binary64
  | finite (negative : Bool) (mantissa : Nat) (exponent : Int)
  | infinite (negative : Bool)
  | nan
deriving DecidableEq, Repr

namespace Binary64

/-- The exponent of the subnormal doubles, the smallest there is. -/
def minExponent : Int := -1074

/-- The largest exponent of a finite double. -/
def maxExponent : Int := 971

/-- `2^e` for an exponent that is not negative, and `1` for one that is: multiplying both sides
of a comparison by `twoPow e` and `twoPow (-e)` compares them as if scaled by `2^e`. -/
def twoPow (e : Int) : Nat := Nat.pow 2 e.toNat

/-- `10^e` for an exponent that is not negative, and `1` for one that is. -/
def tenPow (e : Int) : Nat := Nat.pow 10 e.toNat

/-- `n / d` rounded to the nearest natural number, a tie going to the even one. -/
def roundHalfEven (n d : Nat) : Nat :=
  let q := n / d
  let r := n % d
  if 2 * r > d || (2 * r = d && q % 2 = 1) then q + 1 else q

/-- The number of decimal digits of `n`. -/
def decimalLength (n : Nat) : Nat := (toString n).length

/-- The double nearest to `digits × 10^power`, with the sign `negative`. A value below
`10^-324` is less than half the smallest subnormal double and reads as zero; one of at least
`10^310` is beyond the largest double and reads as infinity. -/
def ofDecimal (negative : Bool) (digits : Nat) (power : Int) : Binary64 :=
  let size : Int := (decimalLength digits : Int) + power
  if digits = 0 || size ≤ -324 then .finite negative 0 minExponent
  else if size > 310 then .infinite negative
  else
    let num := digits * tenPow power
    let den := tenPow (-power)
    let guess : Int := (num.log2 : Int) - (den.log2 : Int)
    let binade : Int :=
      if num * twoPow (-guess) < den * twoPow guess then guess - 1 else guess
    let exponent := max (binade - 52) minExponent
    let mantissa := roundHalfEven (num * twoPow (-exponent)) (den * twoPow exponent)
    let (mantissa, exponent) :=
      if mantissa = Nat.pow 2 53 then (Nat.pow 2 52, exponent + 1) else (mantissa, exponent)
    if exponent > maxExponent then .infinite negative else .finite negative mantissa exponent

/-- A positive double as `scaled × 2^exponent`, with the distances `below` and `above` from it
to the halfway points around it in the same unit, and whether those points count as its. -/
structure Interval where
  scaled : Nat
  below : Nat
  above : Nat
  exponent : Int
  inclusive : Bool
deriving DecidableEq, Repr

/-- The numbers that are shown as the positive double `mantissa × 2^exponent`. -/
def interval (mantissa : Nat) (exponent : Int) : Interval :=
  if mantissa < Nat.pow 2 52 then ⟨2 * mantissa, 1, 1, exponent - 1, true⟩
  else if mantissa = Nat.pow 2 52 then ⟨4 * mantissa, 1, 2, exponent - 2, true⟩
  else ⟨2 * mantissa, 1, 1, exponent - 1, mantissa % 2 = 0⟩

/-- The digits `d` of a number `d × 10^p` within the interval, if there is one: the value cut
off at position `p`, or one more when that lies within the interval and the cut-off one does
not, or is farther from the value (or as far). -/
def digitsAt (iv : Interval) (p : Int) : Option Nat :=
  let unit := tenPow p * twoPow (-iv.exponent)
  let scale := twoPow iv.exponent * tenPow (-p)
  let value := iv.scaled * scale
  let below := iv.below * scale
  let above := iv.above * scale
  let cut := value / unit
  let rest := value % unit
  let down := if iv.inclusive then rest ≤ below else rest < below
  let up := if iv.inclusive then unit - rest ≤ above else unit - rest < above
  if up && (!down || 2 * rest ≥ unit) then some (cut + 1)
  else if down then some cut
  else none

/-- The digits at the first position from `p` down, `fuel` positions at most, where the
interval holds a number. -/
def digitsFrom (iv : Interval) : Nat → Int → Nat × Int
  | 0, p => (0, p)
  | fuel + 1, p =>
    match digitsAt iv p with
    | some d => (d, p)
    | none => digitsFrom iv fuel (p - 1)

/-- The shortest digits `d` and position `p` of the positive double `mantissa × 2^exponent`:
`d × 10^p` is the number it is shown as. Every double lies below `10^309` and above `10^-324`,
so the search starts at `10^309`, and 700 positions reach past the smallest. -/
def shortest (mantissa : Nat) (exponent : Int) : Nat × Int :=
  digitsFrom (interval mantissa exponent) 700 309

/-- Writes `digits × 10^position` out in full, with no exponent and no trailing point. -/
def plain (digits : Nat) (position : Int) : String :=
  let s := (toString digits).toList
  let point : Int := position + s.length
  if point ≤ 0 then "0." ++ String.ofList (List.replicate (-point).toNat '0' ++ s)
  else if point < s.length then
    String.ofList (s.take point.toNat) ++ "." ++ String.ofList (s.drop point.toNat)
  else String.ofList (s ++ List.replicate (point - s.length).toNat '0')

/-- How a double is shown: `NaN`, `inf` or `-inf`, or its shortest digits written out in full,
after a `-` when it is negative (negative zero included). -/
def display : Binary64 → String
  | .nan => "NaN"
  | .infinite negative => (if negative then "-" else "") ++ "inf"
  | .finite negative mantissa exponent =>
    let sign := if negative then "-" else ""
    if mantissa = 0 then sign ++ "0"
    else
      let (digits, position) := shortest mantissa exponent
      sign ++ plain digits position

/-- How a double is shown as a floating-point number: as `display` shows it, with `.0` added
when a finite one shows no decimal point. -/
def displayWithPoint (x : Binary64) : String :=
  let shown := x.display
  match x with
  | .finite .. => if shown.toList.contains '.' then shown else shown ++ ".0"
  | _ => shown

end Binary64

end RegexHighlight
