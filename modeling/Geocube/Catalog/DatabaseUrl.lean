import Geocube.Decimal.Read
import Geocube.Text.Quoted

/-!
Checking PostgreSQL connection URLs.

A URL is read the way generic URLs are: after the scheme and `//` come an
optional `user:password@`, a host (a bracketed IPv6 address or an opaque
name), an optional port, then a path, a query and a fragment. The user, the
password and the path name the login and the database once percent-decoded,
and must then be UTF-8. The query may set connection parameters: `sslmode`
must name a known mode, `port` and `statement-cache-capacity` must be
numbers, `hostaddr` an IP address.

The messages are those of the URL reader and of the connection options.
-/

namespace Geocube
namespace DatabaseUrl

/-- Characters that end the authority part of a URL. -/
def endsAuthority (c : Char) : Bool := c == '/' || c == '?' || c == '#'

/-- Characters an opaque host may not contain. -/
def forbiddenInHost (c : Char) : Bool :=
  c == '\x00' || c == '\t' || c == '\n' || c == '\r' || c == ' ' || c == '#' || c == '/' ||
  c == ':' || c == '<' || c == '>' || c == '?' || c == '@' || c == '[' || c == '\\' ||
  c == ']' || c == '^' || c == '|'

def hexValue? (c : Char) : Option Nat :=
  if '0' ≤ c && c ≤ '9' then some (c.toNat - '0'.toNat)
  else if 'a' ≤ c && c ≤ 'f' then some (c.toNat - 'a'.toNat + 10)
  else if 'A' ≤ c && c ≤ 'F' then some (c.toNat - 'A'.toNat + 10)
  else none

/-- The first up to four hex digits of a list, their value and the rest. -/
def hexPiece (cs : List Char) : Nat × Nat × List Char :=
  let rec go : Nat → Nat → Nat → List Char → Nat × Nat × List Char
    | 0, n, v, rest => (n, v, rest)
    | k + 1, n, v, c :: rest =>
      match hexValue? c with
      | some d => go k (n + 1) (v * 16 + d) rest
      | none => (n, v, c :: rest)
    | _ + 1, n, v, [] => (n, v, [])
  go 4 0 0 cs

/-- A dotted IPv4 tail of an IPv6 address: four decimal numbers up to 255
without leading zeros. -/
def ipv4Tail (cs : List Char) : Bool :=
  let parts := cs.splitOn '.'
  parts.length == 4 && parts.all fun p =>
    !p.isEmpty && p.all (fun c => '0' ≤ c && c ≤ '9') &&
    (p.length == 1 || p.head? != some '0') &&
    (match Decimal.digitsValue? p with
      | some v => v ≤ 255
      | none => false)

/-- Whether text is an IPv6 address: up to eight hex pieces separated by
colons, at most one `::`, optionally ending in a dotted IPv4 address in place
of the last two pieces. -/
def isIpv6 (s : String) : Bool :=
  let cs := s.toList
  if cs.length < 2 then false
  else
    let (start, pieces, compressed) : List Char × Nat × Bool := match cs with
      | ':' :: ':' :: rest => (rest, 1, true)
      | _ => (cs, 0, false)
    if cs.head? == some ':' && !compressed then false
    else
      let rec go (fuel : Nat) (cs : List Char) (pieces : Nat) (compressed : Bool) :
          Option (Nat × Bool) :=
        match fuel with
        | 0 => none
        | fuel + 1 =>
          match cs with
          | [] => some (pieces, compressed)
          | _ =>
            if pieces == 8 then none
            else match cs with
              | ':' :: rest => if compressed then none else go fuel rest (pieces + 1) true
              | _ =>
                let (n, _, rest) := hexPiece cs
                match rest with
                | '.' :: _ =>
                  if n == 0 || pieces > 6 then none
                  else if ipv4Tail cs then some (pieces + 2, compressed) else none
                | ':' :: [] => none
                | ':' :: more => go fuel more (pieces + 1) compressed
                | [] => some (pieces + 1, compressed)
                | _ => none
      match go (cs.length + 2) start pieces compressed with
      | some (n, true) => n ≤ 8
      | some (n, false) => n == 8
      | none => false

/-- Percent-decoding: `%` and two hex digits give a byte, anything else stands
for its UTF-8 bytes. -/
def percentDecode (s : String) : List Nat :=
  let rec go : List Char → List Nat
    | '%' :: a :: b :: rest =>
      match hexValue? a, hexValue? b with
      | some x, some y => (x * 16 + y) :: go rest
      | _, _ => '%'.toNat :: go (a :: b :: rest)
    | c :: rest => (String.singleton c).toUTF8.toList.map (·.toNat) ++ go rest
    | [] => []
  go s.toList

/-- How many bytes a sequence starting with this byte has; 0 when it cannot
start one. -/
def sequenceWidth (b : Nat) : Nat :=
  if b < 0x80 then 1
  else if 0xC2 ≤ b && b ≤ 0xDF then 2
  else if 0xE0 ≤ b && b ≤ 0xEF then 3
  else if 0xF0 ≤ b && b ≤ 0xF4 then 4
  else 0

def isContinuation (b : Nat) : Bool := 0x80 ≤ b && b ≤ 0xBF

/-- The allowed range of the second byte after a given first byte. -/
def secondOk (first b : Nat) : Bool :=
  if first == 0xE0 then 0xA0 ≤ b && b ≤ 0xBF
  else if first == 0xED then 0x80 ≤ b && b ≤ 0x9F
  else if first == 0xF0 then 0x90 ≤ b && b ≤ 0xBF
  else if first == 0xF4 then 0x80 ≤ b && b ≤ 0x8F
  else isContinuation b

/-- Why bytes are not UTF-8: where the valid prefix ends, and the length of
the bad sequence (none when the bytes end inside a sequence). -/
def utf8Error? (bytes : List Nat) : Option (Nat × Option Nat) :=
  let rec go (at_ : Nat) : List Nat → Option (Nat × Option Nat)
    | [] => none
    | b :: rest =>
      match sequenceWidth b with
      | 1 => go (at_ + 1) rest
      | 0 => some (at_, some 1)
      | w =>
        match rest with
        | [] => some (at_, none)
        | b2 :: rest2 =>
          if !secondOk b b2 then some (at_, some 1)
          else if w == 2 then go (at_ + 2) rest2
          else match rest2 with
            | [] => some (at_, none)
            | b3 :: rest3 =>
              if !isContinuation b3 then some (at_, some 2)
              else if w == 3 then go (at_ + 3) rest3
              else match rest3 with
                | [] => some (at_, none)
                | b4 :: rest4 =>
                  if !isContinuation b4 then some (at_, some 3) else go (at_ + 4) rest4
  go 0 bytes

/-- The message of a UTF-8 failure. -/
def utf8Message : Nat × Option Nat → String
  | (at_, some n) => s!"invalid utf-8 sequence of {n} bytes from index {at_}"
  | (at_, none) => s!"incomplete utf-8 byte sequence from index {at_}"

/-- Percent-decoded text that must be UTF-8. -/
def checkDecoded (s : String) : Except String Unit :=
  match utf8Error? (percentDecode s) with
  | some e => .error (utf8Message e)
  | none => .ok ()

/-- The message of reading an unsigned integer of at most `max`. -/
def checkUnsigned (s : String) (max : Nat) : Except String Unit :=
  let body := match s.toList with
    | '+' :: r => r
    | r => r
  if s.isEmpty then .error "cannot parse integer from empty string"
  else if s == "+" || s == "-" then .error "invalid digit found in string"
  else match Decimal.digitsValue? body with
    | none => .error "invalid digit found in string"
    | some v => if v ≤ max then .ok () else .error "number too large to fit in target type"

/-- Whether text is an IPv4 address in dotted decimal. -/
def isIpv4 (s : String) : Bool := ipv4Tail s.toList

/-- A query value as form decoding gives it: `+` is a space, then
percent-decoding. -/
def formDecode (s : String) : String :=
  let bytes := percentDecode (String.ofList (s.toList.map fun c => if c == '+' then ' ' else c))
  match String.fromUTF8? (ByteArray.mk (bytes.map (·.toUInt8)).toArray) with
  | some t => t
  | none => s

/-- The connection modes `sslmode` may name, in any case. -/
def sslModes : List String := ["disable", "allow", "prefer", "require", "verify-ca", "verify-full"]

/-- Check one query parameter. -/
def checkParameter (key value : String) : Except String Unit :=
  let wrap := fun (m : String) => "error with configuration: " ++ m
  if key == "sslmode" || key == "ssl-mode" then
    if sslModes.contains (String.ofList (value.toList.map Char.toLower)) then .ok ()
    else .error (wrap ("error with configuration: unknown value " ++ Text.quoted value ++
      " for " ++ String.singleton (Char.ofNat 96) ++ "ssl_mode" ++ String.singleton (Char.ofNat 96)))
  else if key == "port" then (checkUnsigned value 65535).mapError wrap
  else if key == "statement-cache-capacity" then (checkUnsigned value Decimal.u64Max).mapError wrap
  else if key == "hostaddr" then
    if isIpv4 value || isIpv6 value then .ok () else .error (wrap "invalid IP address syntax")
  else .ok ()

/-- Check a connection URL `scheme://...`; the message says what is wrong. -/
def check (url : String) : Except String Unit := do
  let cleaned := (url.toList.filter fun c => c != '\t' && c != '\n' && c != '\r')
  let trimmed := ((cleaned.dropWhile (· ≤ ' ')).reverse.dropWhile (· ≤ ' ')).reverse
  let rest := (trimmed.dropWhile (· != ':')).drop 3
  let authority := rest.takeWhile (!endsAuthority ·)
  let afterAuthority := rest.drop authority.length
  let config := fun (m : String) => "error with configuration: " ++ m
  -- user information
  let lastAt := (authority.zipIdx.filter (·.1 == '@')).getLast?.map (·.2)
  let (user, password, hostPart, hasAuthority) : String × Option String × List Char × Bool :=
    match lastAt with
    | none => ("", none, authority, false)
    | some i =>
      let info := authority.take i
      let (u, p) := match info.splitOn ':' with
        | [u] => (u, none)
        | u :: more => (u, let pw := ([':'] : List Char).intercalate more; if pw.isEmpty then none else some pw)
        | [] => ([], none)
      (String.ofList u, p.map String.ofList, authority.drop (i + 1), !u.isEmpty || p.isSome)
  if lastAt == some 0 && hostPart.isEmpty && !afterAuthority.isEmpty then throw (config "empty host")
  -- host and port
  let rec hostChars (inside : Bool) : List Char → List Char
    | [] => []
    | c :: cs =>
      if c == ':' && !inside then []
      else hostChars (if c == '[' then true else if c == ']' then false else inside) cs |> (c :: ·)
  let host := hostChars false hostPart
  let portPart := hostPart.drop host.length
  if host.head? == some '[' then
    if host.getLast? != some ']' then throw (config "invalid IPv6 address")
    if !isIpv6 (String.ofList ((host.drop 1).dropLast)) then throw (config "invalid IPv6 address")
  else if host.any forbiddenInHost then throw (config "invalid domain character")
  if host.isEmpty && portPart.head? == some ':' then throw (config "empty host")
  match portPart with
  | ':' :: digits =>
    let ds := digits.takeWhile fun c => '0' ≤ c && c ≤ '9'
    if !(digits.drop ds.length).isEmpty then throw (config "invalid port number")
    if ((Decimal.digitsValue? ds).getD 0) > 65535 then throw (config "invalid port number")
  | _ => pure ()
  if host.isEmpty && hasAuthority then throw (config "empty host")
  -- login, database and parameters
  checkDecoded user |>.mapError config
  if let some p := password then (checkDecoded p).mapError config
  let path := afterAuthority.takeWhile fun c => c != '?' && c != '#'
  let database := String.ofList (path.dropWhile (· == '/'))
  if !database.isEmpty then (checkDecoded database).mapError config
  let query := (afterAuthority.drop path.length).takeWhile (· != '#')
  match query with
  | '?' :: q =>
    for pair in (String.ofList q).splitOn "&" do
      if pair.isEmpty then continue
      let (k, v) := match pair.splitOn "=" with
        | [k] => (k, "")
        | k :: more => (k, "=".intercalate more)
        | [] => ("", "")
      checkParameter (formDecode k) (formDecode v)
  | _ => pure ()

end DatabaseUrl
end Geocube
