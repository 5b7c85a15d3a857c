import Geocube.Decimal.Shortest

/-!
Writing a double as text.

Three layouts of the shortest decimal are used: the number form of the JSON
documents, the plain form of messages and the inspection form of debugging
strings. They share the digits and differ in a handful of decisions, gathered
in one `Style` record each.
-/

namespace Geocube
namespace Decimal

/-- The decisions a layout makes about a shortest decimal. -/
structure Style where
  /-- How an exact tie between two shortest decimals is settled. -/
  tie : Tie
  /-- Whether a whole number keeps a `.0`. -/
  pointZero : Bool
  /-- Whether the value (given with its digits) is written with an exponent. -/
  scientific : Float → Scientific → Bool
  /-- Whether a positive exponent carries a plus sign. -/
  plusExponent : Bool
  /-- Text of a NaN. -/
  nanText : String
  /-- Text of positive infinity (negative infinity gets a minus sign). -/
  infText : String

/-- `n` zero characters. -/
def zeros (n : Nat) : String := String.ofList (List.replicate n '0')

/-- Positional text of `digits · 10^exp`. -/
def positional (pointZero : Bool) (s : Scientific) : String :=
  let ds := toString s.digits
  let n : Int := ds.length
  let kk := n + s.exp
  if s.digits == 0 then (if pointZero then "0.0" else "0")
  else if kk ≤ 0 then "0." ++ zeros (-kk).toNat ++ ds
  else if kk ≥ n then ds ++ zeros s.exp.toNat ++ (if pointZero then ".0" else "")
  else
    let cs := ds.toList
    String.ofList (cs.take kk.toNat) ++ "." ++ String.ofList (cs.drop kk.toNat)

/-- Exponent text of `digits · 10^exp`: one digit, the rest after a point, then
`e` and the power of ten of the first digit, signed when `plus` asks for it. -/
def exponential (plus : Bool) (s : Scientific) : String :=
  let cs := (toString s.digits).toList
  let kk : Int := (cs.length : Int) + s.exp
  let mant := match cs with
    | [] => "0"
    | [c] => String.singleton c
    | c :: rest => String.singleton c ++ "." ++ String.ofList rest
  mant ++ "e" ++ (if plus && kk - 1 ≥ 0 then "+" else "") ++ toString (kk - 1)

/-- The text of a double in a style. -/
def Style.render (st : Style) (x : Float) : String :=
  match Binary64.decode x with
  | .nan => st.nanText
  | .infinite neg => (if neg then "-" else "") ++ st.infText
  | .finite neg .. =>
    let s := (shortest st.tie x).getD ⟨0, 0⟩
    let body := if st.scientific x s then exponential st.plusExponent s else positional st.pointZero s
    (if neg then "-" else "") ++ body

/-- Numbers in JSON documents: shortest digits with ties to even, positional
while the decimal point falls within sixteen digits left of the first digit
and five places right of it, always with a fraction or a signed exponent. -/
def Style.json : Style where
  tie := .even
  pointZero := true
  scientific := fun _ s =>
    let kk := (digitCount s.digits : Int) + s.exp
    s.digits != 0 && (kk > 16 || kk ≤ -5)
  plusExponent := true
  nanText := "NaN"
  infText := "inf"

/-- Numbers in messages: always positional, no `.0` on whole numbers, ties up. -/
def Style.plain : Style where
  tie := .up
  pointZero := false
  scientific := fun _ _ => false
  plusExponent := false
  nanText := "NaN"
  infText := "inf"

/-- Numbers in inspection strings: positional with at least one fraction digit
for magnitudes in `[1e-4, 1e16)` and zero, exponent form otherwise, ties up. -/
def Style.inspect : Style where
  tie := .up
  pointZero := true
  scientific := fun x _ =>
    let a := x.abs
    (a != 0.0 && a < 1e-4) || a ≥ 1e16
  plusExponent := false
  nanText := "NaN"
  infText := "inf"

/-- JSON number text of a finite double. -/
def jsonText (x : Float) : String := Style.json.render x

/-- Message text of a double. -/
def plainText (x : Float) : String := Style.plain.render x

/-- Inspection text of a double. -/
def inspectText (x : Float) : String := Style.inspect.render x

/-- Message text with a `.0` added when the plain text has no point. -/
def withPoint (x : Float) : String :=
  let t := plainText x
  if x.isFinite && !t.contains '.' then t ++ ".0" else t

end Decimal
end Geocube
