/-!
Universally unique identifiers.

An identifier is a 128-bit number, written as 32 lowercase hexadecimal digits
in groups of 8, 4, 4, 4 and 12 joined by hyphens. It is read from that form in
either case, from 32 digits without hyphens, from the grouped form in braces,
or after the prefix `urn:uuid:`.

Text that is none of these is refused with the first thing wrong with it: a
character that is neither a hexadecimal digit nor a hyphen (with its byte
position), the length of hyphen-free text, the number of groups, or the length
of the first group that is off.
-/

namespace Geocube

/-- A 128-bit identifier. -/
structure Uuid where
  value : Nat
  deriving DecidableEq, Inhabited, Repr

namespace Uuid

/-- Why a text is not an identifier. -/
inductive ParseError where
  | char (c : Char) (index : Nat)
  | simpleLength (len : Nat)
  | groupCount (count : Nat)
  | groupLength (group len : Nat)
  deriving Inhabited

def ParseError.message : ParseError → String
  | .char c i => "invalid character: found `" ++ c.toString ++ "` at " ++ toString i
  | .simpleLength n => "invalid length: found " ++ toString n
  | .groupCount n => "invalid group count: found " ++ toString n
  | .groupLength g n => "invalid group length in group " ++ toString g ++ ": found " ++ toString n

def hexValue? (c : Char) : Option Nat :=
  if '0' ≤ c && c ≤ '9' then some (c.toNat - '0'.toNat)
  else if 'a' ≤ c && c ≤ 'f' then some (c.toNat - 'a'.toNat + 10)
  else if 'A' ≤ c && c ≤ 'F' then some (c.toNat - 'A'.toNat + 10)
  else none

/-- The number of hexadecimal digits, when every character is one. -/
def hexNumber? (cs : List Char) : Option Nat :=
  cs.foldl (fun acc c => acc.bind fun n => (hexValue? c).map fun d => n * 16 + d) (some 0)

/-- Thirty-two digits, or the grouped form with hyphens after 8, 12, 16 and 20 digits. -/
def body? (cs : List Char) : Option Nat :=
  if cs.length == 32 then hexNumber? cs
  else if cs.length == 36 && cs[8]? == some '-' && cs[13]? == some '-'
      && cs[18]? == some '-' && cs[23]? == some '-' then
    hexNumber? (cs.filter (· != '-'))
  else none

/-- The part between braces or after `urn:uuid:`, with the number of
characters before it; whether the text was bare. -/
def unwrap (cs : List Char) : List Char × Nat × Bool :=
  if cs.head? == some '{' && cs.getLast? == some '}' && cs.length ≥ 2 then
    (cs.drop 1 |>.dropLast, 1, false)
  else if "urn:uuid:".toList.isPrefixOf cs then (cs.drop 9, 9, false)
  else (cs, 0, true)

/-- What is wrong with text that does not read as an identifier. -/
def diagnose (cs : List Char) : ParseError :=
  let (body, offset, bare) := unwrap cs
  -- byte positions of the characters of the body
  let positioned := (body.foldl (fun (acc : List (Char × Nat) × Nat) c =>
      (acc.1 ++ [(c, acc.2)], acc.2 + c.utf8Size)) ([], 0)).1
  match positioned.find? fun (c, _) => c != '-' && (hexValue? c).isNone with
  | some (c, i) => .char c (i + offset)
  | none =>
    let hyphens := (positioned.filter fun (c, _) => c == '-').map (·.2)
    if hyphens.isEmpty && bare then .simpleLength (String.ofList cs).utf8ByteSize
    else if hyphens.length != 4 then .groupCount (hyphens.length + 1)
    else
      let starts := [0, 9, 14, 19, 24]
      let bad := (List.range 4).find? fun g => hyphens[g]? != some (starts[g + 1]?.getD 0 - 1)
      match bad with
      | some g => .groupLength g ((hyphens[g]?.getD 0) - (starts[g]?.getD 0))
      | none => .groupLength 4 ((String.ofList cs).utf8ByteSize - 24)

/-- Read an identifier. -/
def parse (s : String) : Except ParseError Uuid :=
  let cs := s.toList
  let n := s.utf8ByteSize
  let inner :=
    if n == 32 || n == 36 then some cs
    else if n == 38 && cs.head? == some '{' && cs.getLast? == some '}' then some (cs.drop 1).dropLast
    else if n == 45 && "urn:uuid:".toList.isPrefixOf cs then some (cs.drop 9)
    else none
  match inner.bind body? with
  | some v => .ok ⟨v⟩
  | none => .error (diagnose cs)

/-- Lowercase hexadecimal digits of `n`, padded with zeros to `width`. -/
def hexPadded (width n : Nat) : String :=
  let ds := Nat.toDigits 16 n
  String.ofList (List.replicate (width - ds.length) '0' ++ ds)

/-- The grouped lowercase form. -/
def text (u : Uuid) : String :=
  let h := hexPadded 32 u.value
  let cs := h.toList
  let part := fun (a b : Nat) => String.ofList ((cs.drop a).take (b - a))
  part 0 8 ++ "-" ++ part 8 12 ++ "-" ++ part 12 16 ++ "-" ++ part 16 20 ++ "-" ++ part 20 32

/-- The identifier whose every bit is zero. -/
def nil : Uuid := ⟨0⟩

end Uuid

end Geocube
