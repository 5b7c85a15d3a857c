/-!
Binary64 words as exact numbers.

A finite double is `(-1)^neg · mant · 2^exp` with a natural mantissa. Every rule
that has to be exact (rounding a ratio to the nearest double, the remainder of a
division, the order of two values) is computed here on those integers, so the
result never depends on an intermediate rounding.
-/

namespace Geocube

/-- `pow2 n` on naturals, by `Nat.pow` itself, so the power is the same whatever
power instances are in scope. -/
def pow2 (n : Nat) : Nat := Nat.pow 2 n

/-- `pow10 n` on naturals, by `Nat.pow` itself. -/
def pow10 (n : Nat) : Nat := Nat.pow 10 n

namespace Binary64

/-- What a binary64 word denotes. -/
inductive Kind where
  | finite (neg : Bool) (mant : Nat) (exp : Int)
  | infinite (neg : Bool)
  | nan
  deriving Repr, Inhabited

/-- The word's sign, mantissa and exponent. Subnormals have exponent `-1074`. -/
def decode (x : Float) : Kind :=
  let b : Nat := x.toBits.toNat
  let neg : Bool := b / pow2 63 == 1
  let e : Nat := (b / pow2 52) % 2048
  let f : Nat := b % pow2 52
  if e == 2047 then
    if f == 0 then .infinite neg else .nan
  else if e == 0 then .finite neg f (-1074)
  else .finite neg (f + pow2 52) ((e : Int) - 1075)

/-- Quiet not-a-number. -/
def nan : Float := 0.0 / 0.0

/-- Positive infinity. -/
def inf : Float := 1.0 / 0.0

/-- Whether the word has its sign bit set (also for zeros and NaN). -/
def signBit (x : Float) : Bool := x.toBits.toNat / pow2 63 == 1

/-- The word with sign bit, biased exponent and fraction given. -/
def pack (neg : Bool) (biased frac : Nat) : Float :=
  Float.ofBits (UInt64.ofNat ((if neg then pow2 63 else 0) + biased * pow2 52 + frac))

/-- `2^e ≤ num / den`, decided on integers. -/
def powLe (num den : Nat) (e : Int) : Bool :=
  if 0 ≤ e then den * pow2 e.toNat ≤ num else den ≤ num * pow2 (-e).toNat

/-- The quotient `num / den` rounded to the nearest integer, ties to even. -/
def roundHalfEven (num den : Nat) : Nat :=
  let q := num / den
  let r := num % den
  if 2 * r > den || (2 * r == den && q % 2 == 1) then q + 1 else q

/-- The double nearest to `num / den`, ties to the even mantissa, with the given
sign; a value beyond the largest double is infinite. A zero numerator or
denominator gives a signed zero. -/
def ofRatio (neg : Bool) (num den : Nat) : Float :=
  if num == 0 || den == 0 then pack neg 0 0
  else
    let e0 : Int := (Nat.log2 num : Int) - (Nat.log2 den : Int)
    let e : Int := if powLe num den e0 then e0 else e0 - 1
    let s : Int := max (e - 52) (-1074)
    let m :=
      if 0 ≤ s then roundHalfEven num (den * pow2 s.toNat)
      else roundHalfEven (num * pow2 (-s).toNat) den
    let (m, s) := if m == pow2 53 then (pow2 52, s + 1) else (m, s)
    if m < pow2 52 then pack neg 0 m
    else
      let biased := s + 1075
      if biased ≥ 2047 then pack neg 2047 0
      else pack neg biased.toNat (m - pow2 52)

/-- The double nearest to an integer. -/
def ofInt (i : Int) : Float := ofRatio (i < 0) i.natAbs 1

/-- The double nearest to `m · 10^e` (negative when `neg`). -/
def ofScientific (neg : Bool) (m : Nat) (e : Int) : Float :=
  if 0 ≤ e then ofRatio neg (m * pow10 e.toNat) 1 else ofRatio neg m (pow10 (-e).toNat)

/-- The remainder of truncated division, computed exactly: it has the sign of
`x`, is NaN when `x` is infinite or `y` is zero or either is NaN, and is `x`
when only `y` is infinite. -/
def fmod (x y : Float) : Float :=
  match decode x, decode y with
  | .finite nx mx ex, .finite _ my ey =>
    if my == 0 then nan
    else
      let e := min ex ey
      let r := (mx * pow2 (ex - e).toNat) % (my * pow2 (ey - e).toNat)
      if 0 ≤ e then ofRatio nx (r * pow2 e.toNat) 1 else ofRatio nx r (pow2 (-e).toNat)
  | .finite .., .infinite _ => x
  | _, _ => nan

/-- The Euclidean remainder: the truncated remainder moved up by `|y|` when it is
negative. -/
def remEuclid (x y : Float) : Float :=
  let r := fmod x y
  if r < 0.0 then r + y.abs else r

/-- The exact value of a finite word as an integer times `2^e` for a chosen
`e` no larger than its own exponent; `none` for infinities and NaN. -/
def scaledTo (x : Float) (e : Int) : Option Int :=
  match decode x with
  | .finite neg m ex =>
    let v : Int := (m * pow2 (ex - e).toNat : Nat)
    some (if neg then -v else v)
  | _ => none

/-- The binary exponent of a finite word, `0` otherwise. -/
def expOf (x : Float) : Int :=
  match decode x with
  | .finite _ _ e => e
  | _ => 0

/-- The value rounded to an integer, halves away from zero, as an `Int`; `none`
when it is not finite. -/
def roundToInt? (x : Float) : Option Int :=
  match decode x with
  | .finite neg m e =>
    let n : Nat :=
      if 0 ≤ e then m * pow2 e.toNat
      else
        let d := pow2 (-e).toNat
        let q := m / d
        if 2 * (m % d) ≥ d then q + 1 else q
    some (if neg then -(n : Int) else n)
  | _ => none

/-- The value rounded to a whole number, halves away from zero, as a double. A
value that rounds to zero keeps its sign; whole numbers, infinities and NaN come
back as they are. -/
def roundHalfAway (x : Float) : Float :=
  match decode x with
  | .finite neg m e =>
    if 0 ≤ e then x
    else
      let d := pow2 (-e).toNat
      ofRatio neg (if 2 * (m % d) ≥ d then m / d + 1 else m / d) 1
  | _ => x

/-- The largest whole number at or below the value, as a double. Whole numbers
(negative zero among them), infinities and NaN come back as they are; a value
strictly between `-1` and `0` goes to `-1`, one strictly between `0` and `1` to
positive zero. -/
def floor (x : Float) : Float :=
  match decode x with
  | .finite neg m e =>
    if 0 ≤ e then x
    else
      let d := pow2 (-e).toNat
      if m % d == 0 then x
      else ofRatio neg (if neg then m / d + 1 else m / d) 1
  | _ => x

/-- The value truncated toward zero, as an `Int`; `none` when not finite. -/
def truncToInt? (x : Float) : Option Int :=
  match decode x with
  | .finite neg m e =>
    let n : Nat := if 0 ≤ e then m * pow2 e.toNat else m / pow2 (-e).toNat
    some (if neg then -(n : Int) else n)
  | _ => none

/-- Whether the value is a finite whole number: no bit of its mantissa stands
below the binary point. -/
def isIntegral (x : Float) : Bool :=
  match decode x with
  | .finite _ m e => 0 ≤ e || m % pow2 (-e).toNat == 0
  | _ => false

/-- Conversion to an integer of a fixed range that saturates at the ends, sends
NaN to zero and truncates toward zero. -/
def toIntClamped (x : Float) (lo hi : Int) : Int :=
  match decode x with
  | .nan => 0
  | .infinite neg => if neg then lo else hi
  | .finite .. =>
    let t := (truncToInt? x).getD 0
    if t < lo then lo else if t > hi then hi else t

/-- Conversion to a machine-sized unsigned count: truncation, negatives and NaN
to zero, saturating at `2^64 - 1`. -/
def toNatClamped (x : Float) : Nat :=
  (toIntClamped x 0 (pow2 64 - 1)).toNat

end Binary64
end Geocube
