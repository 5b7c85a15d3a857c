import Geocube.Document.Basic

/-!
Reading JSON text into a document.

Integers are kept exactly while they fit a 64-bit word (unsigned, or signed when
negative); anything else with digits becomes a double. The double of a decimal
is computed the way the data format's reader does it: the significand is kept
in a 64-bit word, digits beyond it are dropped, and the power of ten is applied
with one multiplication or division by a tabulated power, so it can differ from
the nearest double in the last place. Mappings keep the last value of a key
that appears twice.
-/

namespace Geocube
namespace Document

/-- Why a text is not a document. -/
inductive ReadError where
  | endOfInput
  | unexpected (c : Char)
  | invalidNumber
  | numberOutOfRange
  | invalidEscape
  | controlCharacter
  | trailingCharacters
  | tooDeep
  deriving Repr, DecidableEq

def ReadError.message : ReadError → String
  | .endOfInput => "EOF while parsing a value"
  | .unexpected c => "expected value, found " ++ c.toString
  | .invalidNumber => "invalid number"
  | .numberOutOfRange => "number out of range"
  | .invalidEscape => "invalid escape"
  | .controlCharacter => "control character (\\u0000-\\u001F) found while parsing a string"
  | .trailingCharacters => "trailing characters"
  | .tooDeep => "recursion limit exceeded"

abbrev Reading (α : Type) := Except ReadError (α × List Char)

def u64Max : Nat := pow2 64 - 1

/-- Appending `digit` to `sig` would leave the unsigned 64-bit range. -/
def wouldOverflow (sig digit : Nat) (limit : Nat) : Bool :=
  sig ≥ limit / 10 && (sig > limit / 10 || digit > limit % 10)

def isDigit (c : Char) : Bool := '0' ≤ c && c ≤ '9'

def digitVal (c : Char) : Nat := c.toNat - '0'.toNat

def isBlank (c : Char) : Bool := c == ' ' || c == '\n' || c == '\t' || c == '\r'

def skipBlank : List Char → List Char
  | c :: cs => if isBlank c then skipBlank cs else c :: cs
  | [] => []

/-- The tabulated power of ten, `10^i` rounded to the nearest double. -/
def pow10 (i : Nat) : Float := Binary64.ofScientific false 1 i

/-- Apply a decimal exponent to a significand as the format's reader does:
one multiplication or division by a power of ten up to `10^308`, repeated
division by `10^308` for smaller exponents, and an error when a positive
exponent overflows. -/
def fromParts (positive : Bool) (sig : Nat) (exp : Int) : Except ReadError Float :=
  let rec go (fuel : Nat) (f : Float) (exp : Int) : Except ReadError Float :=
    match fuel with
    | 0 => .ok f
    | fuel + 1 =>
      if exp.natAbs ≤ 308 then
        if 0 ≤ exp then
          let g := f * pow10 exp.toNat
          if g.isInf then .error .numberOutOfRange else .ok g
        else .ok (f / pow10 exp.natAbs)
      else if f == 0.0 then .ok f
      else if 0 ≤ exp then .error .numberOutOfRange
      else go fuel (f / pow10 308) (exp + 308)
  match go 8000000 (Binary64.ofRatio false sig 1) exp with
  | .ok f => .ok (if positive then f else -f)
  | .error e => .error e

def i32Max : Nat := pow2 31 - 1

def saturate32 (x : Int) : Int := max (-(pow2 31)) (min x (pow2 31 - 1))

/-- Skip a run of digits. -/
def dropDigits : List Char → List Char
  | c :: cs => if isDigit c then dropDigits cs else c :: cs
  | [] => []

/-- The exponent part after `e`. An exponent beyond the 32-bit range gives zero
for a zero significand or a negative exponent, and an error otherwise. -/
def readExponent (positive : Bool) (sig : Nat) (start : Int) (cs : List Char) :
    Reading Float :=
  let (posExp, cs) := match cs with
    | '+' :: r => (true, r)
    | '-' :: r => (false, r)
    | r => (true, r)
  match cs with
  | [] => .error .endOfInput
  | c :: rest =>
    if !isDigit c then .error .invalidNumber
    else
      let rec digits (e : Nat) : List Char → Except ReadError (Option Nat × List Char)
        | d :: ds =>
          if isDigit d then
            if wouldOverflow e (digitVal d) i32Max then .ok (none, d :: ds)
            else digits (e * 10 + digitVal d) ds
          else .ok (some e, d :: ds)
        | [] => .ok (some e, [])
      match digits (digitVal c) rest with
      | .error err => .error err
      | .ok (none, r) =>
        if sig != 0 && posExp then .error .numberOutOfRange
        else .ok (if positive then 0.0 else -0.0, dropDigits r)
      | .ok (some e, r) =>
        let final := saturate32 (if posExp then start + e else start - e)
        match fromParts positive sig final with
        | .ok f => .ok (f, r)
        | .error err => .error err

/-- The fraction after the point; digits that no longer fit the significand are
dropped. At least one digit must follow the point unless the significand was
already full at the first of them. -/
def readFraction (positive : Bool) (sig : Nat) (exp : Int) (cs : List Char) : Reading Float :=
  let rec digits (sig : Nat) (after : Int) : List Char → Nat × Int × Bool × List Char
    | d :: ds =>
      if isDigit d then
        if wouldOverflow sig (digitVal d) u64Max then (sig, after, true, dropDigits (d :: ds))
        else digits (sig * 10 + digitVal d) (after - 1) ds
      else (sig, after, false, d :: ds)
    | [] => (sig, after, false, [])
  let (sig', after, full, rest) := digits sig 0 cs
  if !full && after == 0 then
    match rest with
    | [] => .error .endOfInput
    | _ => .error .invalidNumber
  else
    let exp' := exp + after
    match rest with
    | c :: r => if c == 'e' || c == 'E' then readExponent positive sig' exp' r
                else (fromParts positive sig' exp').map (·, rest)
    | [] => (fromParts positive sig' exp').map (·, [])

/-- What follows the digits of an integer: a fraction, an exponent, or nothing. -/
def readAfterInteger (positive : Bool) (sig : Nat) (exp : Int) (cs : List Char) :
    Reading (Option Float) :=
  let wrap (r : Reading Float) : Reading (Option Float) := r.map fun (f, rest) => (some f, rest)
  match cs with
  | '.' :: r => wrap (readFraction positive sig exp r)
  | 'e' :: r => wrap (readExponent positive sig exp r)
  | 'E' :: r => wrap (readExponent positive sig exp r)
  | r => .ok (none, r)

/-- A number without its sign. -/
def readNumber (positive : Bool) (cs : List Char) : Reading Document :=
  let asInteger (sig : Nat) : Document :=
    if positive then .int sig
    else if 0 < sig && sig ≤ pow2 63 then .int (-(sig : Int))
    else .float (-(Binary64.ofRatio false sig 1))
  let finish (sig : Nat) (exp : Int) (rest : List Char) (long : Bool) : Reading Document :=
    match readAfterInteger positive sig exp rest with
    | .error e => .error e
    | .ok (some f, r) => .ok (.float f, r)
    | .ok (none, r) =>
      if long then (fromParts positive sig exp).map fun f => (.float f, r)
      else .ok (asInteger sig, r)
  match cs with
  | [] => .error .endOfInput
  | '0' :: rest =>
    match rest with
    | d :: _ => if isDigit d then .error .invalidNumber else finish 0 0 rest false
    | [] => finish 0 0 rest false
  | c :: rest =>
    if !isDigit c then .error .invalidNumber
    else
      let rec digits (sig : Nat) : List Char → Nat × Option Nat × List Char
        | d :: ds =>
          if isDigit d then
            if wouldOverflow sig (digitVal d) u64Max then
              let more := (d :: ds).takeWhile isDigit
              (sig, some more.length, (d :: ds).drop more.length)
            else digits (sig * 10 + digitVal d) ds
          else (sig, none, d :: ds)
        | [] => (sig, none, [])
      match digits (digitVal c) rest with
      | (sig, none, r) => finish sig 0 r false
      | (sig, some dropped, r) => finish sig dropped r true

/-- Four hexadecimal digits. -/
def readHex4 : List Char → Option (Nat × List Char)
  | a :: b :: c :: d :: rest =>
    let v (x : Char) : Option Nat :=
      if isDigit x then some (digitVal x)
      else if 'a' ≤ x && x ≤ 'f' then some (x.toNat - 'a'.toNat + 10)
      else if 'A' ≤ x && x ≤ 'F' then some (x.toNat - 'A'.toNat + 10)
      else none
    match v a, v b, v c, v d with
    | some w, some x, some y, some z => some (((w * 16 + x) * 16 + y) * 16 + z, rest)
    | _, _, _, _ => none
  | _ => none

/-- The body of a string after its opening quote; `fuel` bounds the steps by
the text's length. -/
def readString (fuel : Nat) (acc : List Char) (cs : List Char) : Reading String :=
  match fuel with
  | 0 => .error .endOfInput
  | fuel + 1 =>
  match cs with
  | [] => .error .endOfInput
  | '"' :: rest => .ok (String.ofList acc.reverse, rest)
  | '\\' :: rest =>
    match rest with
    | '"' :: r => readString fuel ('"' :: acc) r
    | '\\' :: r => readString fuel ('\\' :: acc) r
    | '/' :: r => readString fuel ('/' :: acc) r
    | 'b' :: r => readString fuel ('\x08' :: acc) r
    | 'f' :: r => readString fuel ('\x0c' :: acc) r
    | 'n' :: r => readString fuel ('\n' :: acc) r
    | 'r' :: r => readString fuel ('\r' :: acc) r
    | 't' :: r => readString fuel ('\t' :: acc) r
    | 'u' :: r =>
      match readHex4 r with
      | none => .error .invalidEscape
      | some (n, r') =>
        if 0xDC00 ≤ n && n < 0xE000 then .error .invalidEscape
        else if 0xD800 ≤ n && n < 0xDC00 then
          match r' with
          | '\\' :: 'u' :: r'' =>
            match readHex4 r'' with
            | some (lo, r3) =>
              if 0xDC00 ≤ lo && lo < 0xE000 then
                readString fuel (Char.ofNat (0x10000 + (n - 0xD800) * 0x400 + (lo - 0xDC00)) :: acc) r3
              else .error .invalidEscape
            | none => .error .invalidEscape
          | _ => .error .invalidEscape
        else readString fuel (Char.ofNat n :: acc) r'
    | _ => .error .invalidEscape
  | c :: rest => if c.toNat < 0x20 then .error .controlCharacter else readString fuel (c :: acc) rest

/-- Expect a literal word. -/
def readWord (w : List Char) (v : Document) (cs : List Char) : Reading Document :=
  if w.isPrefixOf cs then .ok (v, cs.drop w.length) else
    match cs with
    | [] => .error .endOfInput
    | c :: _ => .error (.unexpected c)

mutual

/-- One value after optional blanks; `depth` counts the containers still
allowed to open, `fuel` bounds the recursion by the text's length. -/
def readValue (fuel depth : Nat) (cs : List Char) : Reading Document :=
  match fuel with
  | 0 => .error .endOfInput
  | fuel + 1 =>
    match skipBlank cs with
    | [] => .error .endOfInput
    | c :: rest =>
      if c == 'n' then readWord "null".toList .null (c :: rest)
      else if c == 't' then readWord "true".toList (.bool true) (c :: rest)
      else if c == 'f' then readWord "false".toList (.bool false) (c :: rest)
      else if c == '"' then (readString (rest.length + 1) [] rest).map fun (s, r) => (.str s, r)
      else if c == '-' then readNumber false rest
      else if isDigit c then readNumber true (c :: rest)
      else if c == '[' then
        match depth with
        | 0 => .error .tooDeep
        | d + 1 =>
          match skipBlank rest with
          | ']' :: r => .ok (.arr [], r)
          | r => readItems fuel d [] r
      else if c == '{' then
        match depth with
        | 0 => .error .tooDeep
        | d + 1 =>
          match skipBlank rest with
          | '}' :: r => .ok (.obj [], r)
          | r => readFields fuel d [] r
      else .error (.unexpected c)

/-- Array items from the first one on, with the items read so far reversed. -/
def readItems (fuel depth : Nat) (acc : List Document) (cs : List Char) : Reading Document :=
  match fuel with
  | 0 => .error .endOfInput
  | fuel + 1 =>
    match readValue fuel depth cs with
    | .error e => .error e
    | .ok (v, r) =>
      match skipBlank r with
      | ',' :: r' => readItems fuel depth (v :: acc) r'
      | ']' :: r' => .ok (.arr (v :: acc).reverse, r')
      | [] => .error .endOfInput
      | c :: _ => .error (.unexpected c)

/-- Mapping entries from the first one on. -/
def readFields (fuel depth : Nat) (acc : List (String × Document)) (cs : List Char) :
    Reading Document :=
  match fuel with
  | 0 => .error .endOfInput
  | fuel + 1 =>
    match skipBlank cs with
    | '"' :: r =>
      match readString (r.length + 1) [] r with
      | .error e => .error e
      | .ok (k, r1) =>
        match skipBlank r1 with
        | ':' :: r2 =>
          match readValue fuel depth r2 with
          | .error e => .error e
          | .ok (v, r3) =>
            let acc := setField k v acc
            match skipBlank r3 with
            | ',' :: r4 => readFields fuel depth acc r4
            | '}' :: r4 => .ok (.obj acc, r4)
            | [] => .error .endOfInput
            | c :: _ => .error (.unexpected c)
        | [] => .error .endOfInput
        | c :: _ => .error (.unexpected c)
    | [] => .error .endOfInput
    | c :: _ => .error (.unexpected c)

end

/-- Read a whole text as one document; only blanks may follow it. -/
def parse (s : String) : Except ReadError Document :=
  let cs := s.toList
  match readValue (cs.length + 1) 128 cs with
  | .error e => .error e
  | .ok (v, rest) => if (skipBlank rest).isEmpty then .ok v else .error .trailingCharacters

end Document
end Geocube
