import Geocube.Binary64

/-!
Shortest decimal digits of a double.

A positive double `m · 2^q` is the nearest double to every real in an interval
around it; the interval's ends belong to it exactly when `m` is even. The
shortest decimal of the double is the decimal with the fewest significant
digits inside that interval, and of two such decimals the nearer one; an exact
tie between the two neighbours is settled by a `Tie` rule. Everything is
decided with natural numbers, so no intermediate rounding can move a digit.
-/

namespace Geocube
namespace Decimal

/-- How an exact tie between the two nearest shortest decimals is settled. -/
inductive Tie where
  /-- The neighbour whose last digit is even. -/
  | even
  /-- The larger neighbour. -/
  | up
  deriving Repr, DecidableEq, Inhabited

/-- The decimal `digits · 10^exp`. For a nonzero value `digits` has no trailing
zero. -/
structure Scientific where
  digits : Nat
  exp : Int
  deriving Repr, DecidableEq, Inhabited

/-- Sign of `d · 10^k - n · 2^p`, as an ordering, computed on naturals. -/
def compareScaled (d : Nat) (k : Int) (n : Nat) (p : Int) : Ordering :=
  let lhs := d * pow10 k.toNat * pow2 (-p).toNat
  let rhs := n * pow10 (-k).toNat * pow2 p.toNat
  compare lhs rhs

/-- The rounding interval of the positive double `m · 2^q`, in units of
`2^(q-2)`: the value is `4m`, the upper end `4m + 2`, the lower end `4m - 2`,
or `4m - 1` when the double below lies in the next smaller binade. -/
structure Interval where
  m : Nat
  q : Int
  lowerNear : Bool
  deriving Repr

namespace Interval

def unit (iv : Interval) : Int := iv.q - 2

def lowEnd (iv : Interval) : Nat := if iv.lowerNear then 4 * iv.m - 1 else 4 * iv.m - 2

def highEnd (iv : Interval) : Nat := 4 * iv.m + 2

def inclusive (iv : Interval) : Bool := iv.m % 2 == 0

/-- Whether `d · 10^k` rounds to the double. -/
def holds (iv : Interval) (d : Nat) (k : Int) : Bool :=
  let lo := compareScaled d k iv.lowEnd iv.unit
  let hi := compareScaled d k iv.highEnd iv.unit
  (lo == .gt || (iv.inclusive && lo == .eq)) && (hi == .lt || (iv.inclusive && hi == .eq))

/-- The largest `d` with `d · 10^k` not above the value. -/
def floorAt (iv : Interval) (k : Int) : Nat :=
  (iv.m * pow2 iv.q.toNat * pow10 (-k).toNat) / (pow2 (-iv.q).toNat * pow10 k.toNat)

/-- `⌊log10⌋` of the value: a first guess from the binary exponent, then one
exact correction. -/
def log10Floor (iv : Interval) : Int :=
  let l2 : Int := (Nat.log2 iv.m : Int) + iv.q
  let est := (l2 * 78913) / 262144
  if compareScaled 1 (est + 1) (4 * iv.m) iv.unit != .gt then est + 1 else est

/-- Which of `lo · 10^k` and `(lo + 1) · 10^k` is nearer the value. -/
def nearer (iv : Interval) (tie : Tie) (lo : Nat) (k : Int) : Nat :=
  match compareScaled (2 * lo + 1) k (8 * iv.m) iv.unit with
  | .gt => lo
  | .lt => lo + 1
  | .eq =>
    match tie with
    | .up => lo + 1
    | .even => if lo % 2 == 0 then lo else lo + 1

/-- The first digit count from `n` on at which a neighbour rounds to the double;
`fuel` bounds the search (17 digits always suffice). -/
def search (iv : Interval) (tie : Tie) (e10 : Int) : Nat → Nat → Scientific
  | 0, n =>
    let k := e10 - (n : Int) + 1
    ⟨nearer iv tie (floorAt iv k) k, k⟩
  | fuel + 1, n =>
    let k := e10 - (n : Int) + 1
    let lo := floorAt iv k
    let okLo := iv.holds lo k
    let okHi := iv.holds (lo + 1) k
    if okLo && okHi then ⟨nearer iv tie lo k, k⟩
    else if okLo then ⟨lo, k⟩
    else if okHi then ⟨lo + 1, k⟩
    else search iv tie e10 fuel (n + 1)

end Interval

/-- Strip trailing zeros of the digits into the exponent. -/
def normalize (fuel : Nat) (s : Scientific) : Scientific :=
  match fuel with
  | 0 => s
  | fuel + 1 =>
    if s.digits != 0 && s.digits % 10 == 0 then normalize fuel ⟨s.digits / 10, s.exp + 1⟩ else s

/-- The shortest decimal of the positive value `m · 2^q` (with `m > 0`). An
integer below `2^53` is its own shortest decimal: a decimal with fewer digits
differs from it by at least one, more than half the gap to its neighbours. -/
def shortestOf (tie : Tie) (m : Nat) (q : Int) (lowerNear : Bool) : Scientific :=
  if 0 ≤ q && m * pow2 q.toNat < pow2 53 then normalize 20 ⟨m * pow2 q.toNat, 0⟩
  else
    let iv : Interval := ⟨m, q, lowerNear⟩
    normalize 20 (iv.search tie iv.log10Floor 17 1)

/-- Shortest decimal of the magnitude of a finite double; zero gives `0 · 10^0`,
and infinities and NaN give `none`. -/
def shortest (tie : Tie) (x : Float) : Option Scientific :=
  match Binary64.decode x with
  | .finite _ m q =>
    if m == 0 then some ⟨0, 0⟩
    else some (shortestOf tie m q (m == pow2 52 && q > -1074))
  | _ => none

/-- The number of decimal digits of a natural (one for zero). -/
def digitCount (n : Nat) : Nat := (Nat.toDigits 10 n).length

end Decimal
end Geocube
