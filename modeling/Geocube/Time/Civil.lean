/-!
Civil dates of the proleptic Gregorian calendar.

A date is a day number counted from 1970-01-01; the year, month and day are
computed from it and back with the usual era arithmetic (400-year cycles of
146097 days). Years run from -262143 to 262142.
-/

namespace Geocube

/-- A calendar date, as days since 1970-01-01. -/
structure Date where
  days : Int
  deriving DecidableEq, Repr, Inhabited

namespace Date

instance : Ord Date := ⟨fun a b => compare a.days b.days⟩
instance : LT Date := ⟨fun a b => a.days < b.days⟩
instance : LE Date := ⟨fun a b => a.days ≤ b.days⟩
instance (a b : Date) : Decidable (a < b) := inferInstanceAs (Decidable (a.days < b.days))
instance (a b : Date) : Decidable (a ≤ b) := inferInstanceAs (Decidable (a.days ≤ b.days))

def minYear : Int := -262143
def maxYear : Int := 262142

def isLeap (y : Int) : Bool := (y % 4 == 0 && y % 100 != 0) || y % 400 == 0

def monthLength (y : Int) (m : Nat) : Nat :=
  if m == 2 then (if isLeap y then 29 else 28)
  else if m == 4 || m == 6 || m == 9 || m == 11 then 30
  else 31

/-- Day number of a calendar day (the month and day are taken as given). -/
def daysFromCivil (y : Int) (m d : Nat) : Int :=
  let y := if m ≤ 2 then y - 1 else y
  let era := y / 400
  let yoe := y - era * 400
  let mp : Int := if m > 2 then (m : Int) - 3 else (m : Int) + 9
  let doy := (153 * mp + 2) / 5 + d - 1
  let doe := yoe * 365 + yoe / 4 - yoe / 100 + doy
  era * 146097 + doe - 719468

/-- Year, month and day of a day number. -/
def civil (dt : Date) : Int × Nat × Nat :=
  let z := dt.days + 719468
  let era := z / 146097
  let doe := z - era * 146097
  let yoe := (doe - doe / 1460 + doe / 36524 - doe / 146096) / 365
  let doy := doe - (365 * yoe + yoe / 4 - yoe / 100)
  let mp := (5 * doy + 2) / 153
  let d := doy - (153 * mp + 2) / 5 + 1
  let m := if mp < 10 then mp + 3 else mp - 9
  let y := yoe + era * 400 + (if m ≤ 2 then 1 else 0)
  (y, m.toNat, d.toNat)

def year (dt : Date) : Int := dt.civil.1
def month (dt : Date) : Nat := dt.civil.2.1
def day (dt : Date) : Nat := dt.civil.2.2

/-- The first and last representable days. -/
def first : Date := ⟨daysFromCivil minYear 1 1⟩
def last : Date := ⟨daysFromCivil maxYear 12 31⟩

/-- Whether a day number lies in the representable years. -/
def inRange (dt : Date) : Bool := first.days ≤ dt.days && dt.days ≤ last.days

/-- The date of a year, month and day, if that day exists and is representable. -/
def ofYmd? (y : Int) (m d : Nat) : Option Date :=
  if minYear ≤ y && y ≤ maxYear && 1 ≤ m && m ≤ 12 && 1 ≤ d && d ≤ monthLength y m then
    some ⟨daysFromCivil y m d⟩
  else none

/-- Move by a number of days, if the result is representable. -/
def addDays? (dt : Date) (n : Int) : Option Date :=
  let r : Date := ⟨dt.days + n⟩
  if r.inRange then some r else none

/-- Four digits, zero-padded. -/
def pad (width : Nat) (n : Nat) : String :=
  let s := toString n
  String.ofList (List.replicate (width - s.length) '0') ++ s

/-- A year as written in dates: four digits for years 0 to 9999, otherwise a
sign and at least four digits. -/
def yearText (y : Int) : String :=
  if 0 ≤ y && y ≤ 9999 then pad 4 y.toNat
  else (if y < 0 then "-" else "+") ++ pad 4 y.natAbs

/-- `YYYY-MM-DD`. -/
def text (dt : Date) : String :=
  let (y, m, d) := dt.civil
  yearText y ++ "-" ++ pad 2 m ++ "-" ++ pad 2 d

end Date
end Geocube
