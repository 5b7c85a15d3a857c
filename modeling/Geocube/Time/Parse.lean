import Geocube.Time.Instant
import Geocube.Text.Case
import Geocube.Binary64

/-!
Reading dates and instants from text.

Three grammars are read. RFC 3339 (`Instant.ofRfc3339?`): a four-digit year,
two-digit fields, `T`, `t` or a space between date and time, an optional
fraction of any length (nine digits kept), and `Z`, `z` or a `±HH:MM` offset
within a day. Field patterns (`Pattern`): fields of one or two digits (the year
also longer with a sign) with blanks allowed before each number, literals that
must match exactly, and a fraction after a point. The relaxed form
(`Instant.ofRelaxed?`) mixes both. In every grammar the second 60 is a leap
second and a date must exist in the calendar.
-/

namespace Geocube
namespace Time

/-- Why a text does not give a date or an instant. -/
inductive ParseFail where
  | outOfRange
  | impossible
  | notEnough
  | invalid
  | tooShort
  | tooLong
  deriving Repr, DecidableEq

def ParseFail.message : ParseFail → String
  | .outOfRange => "input is out of range"
  | .impossible => "no possible date and time matching input"
  | .notEnough => "input is not enough for unique date and time"
  | .invalid => "input contains invalid characters"
  | .tooShort => "premature end of input"
  | .tooLong => "trailing input"

/-- The fields read so far. -/
structure Fields where
  year : Option Int := none
  month : Option Int := none
  day : Option Int := none
  hour : Option Int := none
  minute : Option Int := none
  second : Option Int := none
  nano : Option Int := none
  offset : Option Int := none
  deriving Repr

abbrev Scan (α : Type) := Except ParseFail (α × List Char)

def isAsciiDigit (c : Char) : Bool := '0' ≤ c && c ≤ '9'

/-- Between `min` and `max` ASCII digits as a number; fewer than `min` digits is
an error, and so is a value beyond a signed 64-bit word. -/
def number (cs : List Char) (min max : Nat) : Scan Int :=
  if cs.length < min then .error .tooShort
  else
    let ds := (cs.take max).takeWhile isAsciiDigit
    if ds.length < min then .error .invalid
    else
      let v := ds.foldl (fun acc c => acc * 10 + (c.toNat - '0'.toNat)) 0
      if v ≥ pow2 63 then .error .outOfRange else .ok ((v : Int), cs.drop ds.length)

/-- Nanoseconds from the digits after a point: up to nine digits are scaled,
further digits are skipped. -/
def nanosecond (cs : List Char) : Except ParseFail (Int × List Char) := do
  let (v, rest) ← number cs 1 9
  let used := cs.length - rest.length
  let scaled := v * pow10 (9 - used)
  return (scaled, rest.dropWhile isAsciiDigit)

def expectChar (c : Char) : List Char → Except ParseFail (List Char)
  | [] => .error .tooShort
  | d :: rest => if d == c then .ok rest else .error .invalid

/-- Set a field, refusing values outside its range. -/
def setIn (lo hi : Int) (v : Int) : Except ParseFail Int :=
  if lo ≤ v && v ≤ hi then .ok v else .error .outOfRange

/-- An offset `Z`, `z` or `±HH:MM` (the minus may also be U+2212), in seconds. -/
def zoneOffset (cs : List Char) : Scan Int :=
  match cs with
  | 'Z' :: r => .ok (0, r)
  | 'z' :: r => .ok (0, r)
  | [] => .error .tooShort
  | c :: r =>
    let sign : Option Int :=
      if c == '+' then some 1 else if c == '-' || c == '−' then some (-1) else none
    match sign with
    | none => .error .invalid
    | some sg =>
      match r with
      | h1 :: h2 :: r2 =>
        if !(isAsciiDigit h1 && isAsciiDigit h2) then .error .invalid
        else
          let hours : Int := (h1.toNat - '0'.toNat) * 10 + (h2.toNat - '0'.toNat)
          match expectChar ':' r2 with
          | .error e => .error e
          | .ok r3 =>
            match r3 with
            | m1 :: m2 :: r4 =>
              if '0' ≤ m1 && m1 ≤ '5' && isAsciiDigit m2 then
                let mins : Int := (m1.toNat - '0'.toNat) * 10 + (m2.toNat - '0'.toNat)
                .ok (sg * (hours * 3600 + mins * 60), r4)
              else if '6' ≤ m1 && m1 ≤ '9' && isAsciiDigit m2 then .error .outOfRange
              else .error .invalid
            | _ => .error .tooShort
      | _ => .error .tooShort

/-- The date of complete fields. -/
def Fields.date (f : Fields) : Except ParseFail Date :=
  match f.year, f.month, f.day with
  | some y, some m, some d =>
    match Date.ofYmd? y m.toNat d.toNat with
    | some dt => .ok dt
    | none => .error .outOfRange
  | _, _, _ => .error .notEnough

/-- Second of the day and nanoseconds of complete fields; second 60 is a leap
second, allowed at the end of any minute. -/
def Fields.time (f : Fields) : Except ParseFail (Nat × Nat) :=
  match f.hour, f.minute with
  | some h, some m => do
    let (s, leap) ← match f.second.getD 0 with
      | 60 => pure (59, (1000000000 : Int))
      | v => if 0 ≤ v && v ≤ 59 then pure (v, (0 : Int)) else throw ParseFail.outOfRange
    let nano ← match f.nano with
      | none => pure leap
      | some v => if f.second.isSome then pure (leap + v) else throw ParseFail.notEnough
    if h ≥ 24 || m ≥ 60 || s ≥ 60 || nano ≥ 2000000000 || (nano ≥ 1000000000 && s != 59) then
      throw ParseFail.outOfRange
    return ((h * 3600 + m * 60 + s).toNat, nano.toNat)
  | _, _ => .error .notEnough

/-- The instant of fields read in local time with an offset east of UTC. -/
def Fields.instant (f : Fields) (offset : Int) : Except ParseFail Instant := do
  let date ← f.date
  let (secs, frac) ← f.time
  let s : Int := (secs : Int) - offset
  let days := s / 86400
  match date.addDays? days with
  | some d => return ⟨d, (s % 86400).toNat, frac⟩
  | none => throw ParseFail.outOfRange

/-- Read an RFC 3339 instant, the whole text. -/
def rfc3339 (s : String) : Except ParseFail Instant := do
  let cs := s.toList
  let (y, cs) ← number cs 4 4
  let cs ← expectChar '-' cs
  let (mo, cs) ← number cs 2 2
  let mo ← setIn 1 12 mo
  let cs ← expectChar '-' cs
  let (d, cs) ← number cs 2 2
  let d ← setIn 1 31 d
  let cs ← match cs with
    | c :: r => if c == 'T' || c == 't' || c == ' ' then pure r else throw ParseFail.invalid
    | [] => throw ParseFail.tooShort
  let (h, cs) ← number cs 2 2
  let h ← setIn 0 23 h
  let cs ← expectChar ':' cs
  let (mi, cs) ← number cs 2 2
  let mi ← setIn 0 59 mi
  let cs ← expectChar ':' cs
  let (sec, cs) ← number cs 2 2
  let sec ← setIn 0 60 sec
  let (nano, cs) ← match cs with
    | '.' :: r => do let (n, r) ← nanosecond r; pure (some n, r)
    | r => pure (none, r)
  let (off, cs) ← zoneOffset cs
  if off.natAbs > (23 * 60 + 59) * 60 then throw ParseFail.outOfRange
  if !cs.isEmpty then throw ParseFail.tooLong
  let f : Fields := { year := y, month := mo, day := d, hour := h, minute := mi, second := sec, nano := nano }
  f.instant off

/-- One element of a field pattern. -/
inductive Piece where
  | year | month | day | hour | minute | second
  /-- `.` followed by the fraction, or nothing. -/
  | fraction
  /-- A character that must match exactly. -/
  | lit (c : Char)
  /-- Any number of blanks, also none. -/
  | blank
  deriving Repr, DecidableEq

/-- Read one piece, updating the fields. -/
def Piece.read (p : Piece) (f : Fields) (cs : List Char) : Except ParseFail (Fields × List Char) :=
  let numeric (width lo hi : Int) (set : Fields → Int → Fields) : Except ParseFail (Fields × List Char) := do
    let cs := cs.dropWhile Text.isBlank
    let (v, r) ← number cs 1 width.toNat
    let v ← setIn lo hi v
    return (set f v, r)
  match p with
  | .year => do
    let cs := cs.dropWhile Text.isBlank
    let (v, r) ← match cs with
      | '-' :: r => do let (v, r) ← number r 1 1000; pure (-v, r)
      | '+' :: r => number r 1 1000
      | r => number r 1 4
    let v ← setIn (-(pow2 31)) (pow2 31 - 1) v
    return ({ f with year := some v }, r)
  | .month => numeric 2 1 12 fun f v => { f with month := some v }
  | .day => numeric 2 1 31 fun f v => { f with day := some v }
  | .hour => numeric 2 0 23 fun f v => { f with hour := some v }
  | .minute => numeric 2 0 59 fun f v => { f with minute := some v }
  | .second => numeric 2 0 60 fun f v => { f with second := some v }
  | .fraction =>
    match cs with
    | '.' :: r => do
      let (n, r) ← nanosecond r
      return ({ f with nano := some n }, r)
    | r => .ok (f, r)
  | .lit c =>
    match cs with
    | [] => .error .tooShort
    | d :: r => if d == c then .ok (f, r) else .error .invalid
  | .blank => .ok (f, cs.dropWhile Text.isBlank)

/-- Read a whole text with a pattern; nothing may remain. -/
def readPattern (ps : List Piece) (s : String) : Except ParseFail Fields := do
  let (f, rest) ← ps.foldlM (fun (acc : Fields × List Char) p => p.read acc.1 acc.2) ({}, s.toList)
  if rest.isEmpty then return f else throw ParseFail.tooLong

open Piece in
/-- `year-month-day`. -/
def datePattern : List Piece := [year, lit '-', month, lit '-', day]

open Piece in
/-- `year-month-day` then `sep`, `hour:minute`, optionally `:second` and a fraction. -/
def dateTimePattern (sep : Piece) (seconds fraction : Bool) : List Piece :=
  datePattern ++ [sep, hour, lit ':', minute] ++
    (if seconds then [lit ':', second] else []) ++ (if fraction then [Piece.fraction] else [])

/-- A date in the `year-month-day` pattern, where blanks may precede the
separators and follow the day. -/
def readDate (s : String) : Except ParseFail Date := do
  let f ← readPattern [.year, .blank, .lit '-', .month, .blank, .lit '-', .day, .blank] s
  f.date

end Time

namespace Instant

/-- An instant from text, after trimming blanks: RFC 3339 first, then local
times in UTC with `T` or a space and optional fraction, then `T` without
seconds, then a bare date at midnight. -/
def parse (raw : String) : Except GeoError Instant :=
  let s := Text.trim raw
  match Time.rfc3339 s with
  | .ok t => .ok t
  | .error _ =>
    let patterns := [Time.dateTimePattern (.lit 'T') true true, Time.dateTimePattern .blank true true,
      Time.dateTimePattern (.lit 'T') true false, Time.dateTimePattern .blank true false,
      Time.dateTimePattern (.lit 'T') false false]
    let viaPattern := patterns.findSome? fun p =>
      match Time.readPattern p s >>= fun f => f.instant 0 with
      | .ok t => some t
      | .error _ => none
    match viaPattern with
    | some t => .ok t
    | none =>
      match Time.readPattern Time.datePattern s >>= fun f => f.date with
      | .ok d => .ok (startOf d)
      | .error _ => .error (.invalidTime s)

/-- The relaxed reading of an instant: a date pattern, `T`, `t` or a space, a
time pattern with blanks allowed around the separators, then `UTC` in any case
or an offset with optional colon and minutes. -/
def ofRelaxed? (s : String) : Except Time.ParseFail Instant := do
  let datePart : List Time.Piece := [.year, .blank, .lit '-', .month, .blank, .lit '-', .day]
  let (f, cs) ← datePart.foldlM (fun (acc : Time.Fields × List Char) p => p.read acc.1 acc.2) ({}, s.toList)
  let cs ← match cs with
    | c :: r => if c == 'T' || c == 't' || c == ' ' then pure r else throw Time.ParseFail.invalid
    | [] => throw Time.ParseFail.tooShort
  let timePart : List Time.Piece := [.hour, .blank, .lit ':', .minute, .blank, .lit ':', .second, .fraction, .blank]
  let (f, cs) ← timePart.foldlM (fun (acc : Time.Fields × List Char) p => p.read acc.1 acc.2) (f, cs)
  let cs := cs.dropWhile Text.isBlank
  let (off, cs) ←
    if (cs.take 3).map Char.toUpper == "UTC".toList then pure ((0 : Int), cs.drop 3)
    else relaxedOffset cs
  if !(cs.dropWhile Text.isBlank).isEmpty then throw Time.ParseFail.tooLong
  f.instant off
where
  /-- `±HH`, then `:` or a blank or nothing, then optional `MM`. -/
  relaxedOffset (cs : List Char) : Time.Scan Int :=
    match cs with
    | 'Z' :: r => .ok (0, r)
    | 'z' :: r => .ok (0, r)
    | [] => .error .tooShort
    | c :: r =>
      let sign : Option Int :=
        if c == '+' then some 1 else if c == '-' || c == '−' then some (-1) else none
      match sign with
      | none => .error .invalid
      | some sg =>
        match r with
        | h1 :: h2 :: r2 =>
          if !(Time.isAsciiDigit h1 && Time.isAsciiDigit h2) then .error .invalid
          else
            let hours : Int := (h1.toNat - '0'.toNat) * 10 + (h2.toNat - '0'.toNat)
            let r3 := match r2 with
              | ':' :: r' => r'
              | ' ' :: r' => r'
              | r' => r'
            match r3 with
            | m1 :: m2 :: r4 =>
              if '0' ≤ m1 && m1 ≤ '5' && Time.isAsciiDigit m2 then
                .ok (sg * (hours * 3600 + ((m1.toNat - '0'.toNat) * 10 + (m2.toNat - '0'.toNat) : Nat) * 60), r4)
              else if '6' ≤ m1 && m1 ≤ '9' && Time.isAsciiDigit m2 then .error .outOfRange
              else .error .invalid
            | _ => .error .tooShort
        | _ => .error .tooShort

end Instant
end Geocube
