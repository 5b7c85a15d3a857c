import Geocube.Binary64

/-!
Reading numbers from text.

Integers: an optional sign (`+`, and `-` for signed targets) followed by at
least one ASCII digit, nothing else, within the target's range. Doubles: an
optional sign, then `inf`, `infinity` or `nan` in any case, or decimal digits
with an optional fraction and exponent and at least one digit before the
exponent; the value is rounded to the nearest double.
-/

namespace Geocube
namespace Decimal

def digitOf? (c : Char) : Option Nat :=
  if '0' ≤ c && c ≤ '9' then some (c.toNat - '0'.toNat) else none

/-- All-digit text as a natural; `none` if empty or another character occurs. -/
def digitsValue? (cs : List Char) : Option Nat :=
  if cs.isEmpty then none
  else cs.foldl (fun acc c => acc.bind fun a => (digitOf? c).map fun d => a * 10 + d) (some 0)

/-- An unsigned integer not above `max`. -/
def readNat? (s : String) (max : Nat) : Option Nat :=
  let cs := match s.toList with
    | '+' :: r => r
    | r => r
  match digitsValue? cs with
  | some n => if n ≤ max then some n else none
  | none => none

/-- A signed integer within `[lo, hi]`. -/
def readInt? (s : String) (lo hi : Int) : Option Int :=
  let (neg, cs) := match s.toList with
    | '+' :: r => (false, r)
    | '-' :: r => (true, r)
    | r => (false, r)
  match digitsValue? cs with
  | some n =>
    let v : Int := if neg then -(n : Int) else n
    if lo ≤ v && v ≤ hi then some v else none
  | none => none

def u32Max : Nat := pow2 32 - 1
def u64Max : Nat := pow2 64 - 1

/-- Lowercase ASCII letters of a word, for the names of the special values. -/
def asciiLowerList (cs : List Char) : List Char := cs.map Char.toLower

/-- A double from its decimal text. -/
def readFloat? (s : String) : Option Float :=
  let (neg, cs) := match s.toList with
    | '+' :: r => (false, r)
    | '-' :: r => (true, r)
    | r => (false, r)
  let low := asciiLowerList cs
  if low == "inf".toList || low == "infinity".toList then
    some (if neg then -Binary64.inf else Binary64.inf)
  else if low == "nan".toList then some Binary64.nan
  else
    let intPart := cs.takeWhile (fun c => (digitOf? c).isSome)
    let rest := cs.drop intPart.length
    let (fracPart, rest) := match rest with
      | '.' :: r => let f := r.takeWhile (fun c => (digitOf? c).isSome); (f, r.drop f.length)
      | r => ([], r)
    if intPart.isEmpty && fracPart.isEmpty then none
    else
      let expPart : Option Int := match rest with
        | [] => some 0
        | c :: r =>
          if c == 'e' || c == 'E' then
            match r with
            | '+' :: ds => (digitsValue? ds).map fun n => (n : Int)
            | '-' :: ds => (digitsValue? ds).map fun n => -(n : Int)
            | ds => (digitsValue? ds).map fun n => (n : Int)
          else none
      match expPart with
      | none => none
      | some e =>
        let m := (digitsValue? (intPart ++ fracPart)).getD 0
        let e := e - fracPart.length
        if m == 0 then some (if neg then -0.0 else 0.0)
        else
          let size : Int := (toString m).length + e
          if size > 310 then some (if neg then -Binary64.inf else Binary64.inf)
          else if size < -330 then some (if neg then -0.0 else 0.0)
          else some (Binary64.ofScientific neg m e)

end Decimal
end Geocube
