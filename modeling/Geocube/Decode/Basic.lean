import Geocube.Document.Writer
import Geocube.Text.Quoted

/-!
Decoding documents into typed values, with the error texts of the data format.

A decoder either produces a value or says why the document does not fit:
the kind of value it found against what it expected, a value out of range, a
list of the wrong length, an unknown variant name, a missing or repeated field,
or a message of its own. The texts name what was found the way the format's
messages do: `integer `5``, `string "x"` (quoted with escapes), `null`,
`sequence`, `map`.

Enumerations without data are read from a string, or from a mapping of one
entry whose value is `null`. An untagged choice tries its alternatives in order
and reports only that none fitted.
-/

namespace Geocube
namespace Decode

/-- What a document turned out to be, as the messages name it. -/
inductive Unexpected where
  | bool (b : Bool)
  | unsigned (n : Nat)
  | signed (i : Int)
  | float (x : Float)
  | str (s : String)
  | null
  | seq
  | map
  deriving Inhabited

/-- The words naming what was found. -/
def Unexpected.text : Unexpected → String
  | .bool b => "boolean `" ++ toString b ++ "`"
  | .unsigned n => "integer `" ++ toString n ++ "`"
  | .signed i => "integer `" ++ toString i ++ "`"
  | .float x => "floating point `" ++ Decimal.jsonText x ++ "`"
  | .str s => "string " ++ Text.quoted s
  | .null => "null"
  | .seq => "sequence"
  | .map => "map"

/-- What kind of value a document is. -/
def unexpected : Document → Unexpected
  | .null => .null
  | .bool b => .bool b
  | .int i => if 0 ≤ i then .unsigned i.toNat else .signed i
  | .float x => .float x
  | .str s => .str s
  | .arr _ => .seq
  | .obj _ => .map

/-- Why a document does not decode. -/
inductive DecodeError where
  | invalidType (found : Unexpected) (expected : String)
  | invalidValue (found : Unexpected) (expected : String)
  | invalidLength (n : Nat) (expected : String)
  | unknownVariant (name : String) (expected : List String)
  | missingField (name : String)
  | duplicateField (name : String)
  | custom (text : String)
  deriving Inhabited

/-- Names in backticks: one alone, two joined by `or`, more as `one of` a list. -/
def oneOf (names : List String) : String :=
  let tick := fun (n : String) => "`" ++ n ++ "`"
  match names with
  | [a] => tick a
  | [a, b] => tick a ++ " or " ++ tick b
  | _ => "one of " ++ ", ".intercalate (names.map tick)

def DecodeError.message : DecodeError → String
  | .invalidType u e => "invalid type: " ++ u.text ++ ", expected " ++ e
  | .invalidValue u e => "invalid value: " ++ u.text ++ ", expected " ++ e
  | .invalidLength n e => "invalid length " ++ toString n ++ ", expected " ++ e
  | .unknownVariant v [] => "unknown variant `" ++ v ++ "`, there are no variants"
  | .unknownVariant v names => "unknown variant `" ++ v ++ "`, expected " ++ oneOf names
  | .missingField n => "missing field `" ++ n ++ "`"
  | .duplicateField n => "duplicate field `" ++ n ++ "`"
  | .custom t => t

end Decode

/-- Reading a typed value from a document. -/
abbrev Decoder (α : Type) := Document → Except Decode.DecodeError α

namespace Decode

/-- Refuse a document of the wrong kind. -/
def mismatch {α : Type} (expected : String) (d : Document) : Except DecodeError α :=
  .error (.invalidType (unexpected d) expected)

def text : Decoder String
  | .str s => .ok s
  | d => mismatch "a string" d

def boolean : Decoder Bool
  | .bool b => .ok b
  | d => mismatch "a boolean" d

/-- A double from any number; integers are rounded to the nearest double. -/
def double : Decoder Float
  | .int i => .ok (Binary64.ofInt i)
  | .float x => .ok x
  | d => mismatch "f64" d

/-- A natural number not above `max`, named `name` in messages. -/
def unsigned (name : String) (max : Nat) : Decoder Nat
  | .int i =>
    if i < 0 then .error (.invalidValue (.signed i) name)
    else if i.toNat ≤ max then .ok i.toNat
    else .error (.invalidValue (.unsigned i.toNat) name)
  | d => mismatch name d

/-- An integer within `[lo, hi]`, named `name` in messages. -/
def signed (name : String) (lo hi : Int) : Decoder Int
  | .int i =>
    if lo ≤ i && i ≤ hi then .ok i
    else .error (.invalidValue (unexpected (.int i)) name)
  | d => mismatch name d

def u8 : Decoder Nat := unsigned "u8" 255

def u32 : Decoder Nat := unsigned "u32" (pow2 32 - 1)

def u64 : Decoder Nat := unsigned "u64" (pow2 64 - 1)

def usize : Decoder Nat := unsigned "usize" (pow2 64 - 1)

def i64 : Decoder Int := signed "i64" (-(pow2 63)) (pow2 63 - 1)

/-- Any document. -/
def any : Decoder Document := fun d => .ok d

/-- `null` is nothing; anything else decodes as a value. -/
def optional {α : Type} (dec : Decoder α) : Decoder (Option α)
  | .null => .ok none
  | d => (dec d).map some

/-- A list, item by item; the first failing item decides. -/
def listOf {α : Type} (dec : Decoder α) : Decoder (List α)
  | .arr xs => xs.mapM dec
  | d => mismatch "a sequence" d

/-- A mapping with string keys, entry by entry in key order. -/
def mapOf {α : Type} (dec : Decoder α) : Decoder (List (String × α))
  | .obj fs => fs.mapM fun (k, v) => (dec v).map fun a => (k, a)
  | d => mismatch "a map" d

/-- A list of exactly two items. -/
def pairOf {α β : Type} (da : Decoder α) (db : Decoder β) : Decoder (α × β)
  | .arr xs =>
    let expected := "a tuple of size 2"
    match xs with
    | [] => .error (.invalidLength 0 expected)
    | [x] => do
      let _ ← da x
      .error (.invalidLength 1 expected)
    | x :: y :: rest => do
      let a ← da x
      let b ← db y
      if rest.isEmpty then .ok (a, b)
      else .error (.invalidLength xs.length "fewer elements in array")
  | d => mismatch "a tuple of size 2" d

/-- The value named by a variant name; `names` lists every accepted name in
the order messages give them. -/
def variantNamed {α : Type} (table : List (String × α)) (names : List String) (v : String) :
    Except DecodeError α :=
  match table.lookup v with
  | some a => .ok a
  | none => .error (.unknownVariant v names)

/-- An enumeration without data, from its name or a one-entry mapping whose
value is `null`. -/
def unitVariant {α : Type} (table : List (String × α)) (names : List String) : Decoder α
  | .str s => variantNamed table names s
  | .obj [(k, v)] => do
    let a ← variantNamed table names k
    match v with
    | .null => .ok a
    | other => mismatch "unit" other
  | .obj _ => .error (.invalidValue .map "map with a single key")
  | d => mismatch "string or map" d

/-- The first alternative that fits. -/
def untagged {α : Type} (name : String) (alts : List (Decoder α)) : Decoder α := fun d =>
  match alts.findSome? fun dec => (dec d).toOption with
  | some a => .ok a
  | none => .error (.custom ("data did not match any variant of untagged enum " ++ name))

/-- A decoded value checked or converted further; a refusal becomes a message
of its own. -/
def Decoder.andThen {α β : Type} (dec : Decoder α) (f : α → Except String β) : Decoder β :=
  fun d => do
    let a ← dec d
    match f a with
    | .ok b => .ok b
    | .error t => .error (.custom t)

end Decode
end Geocube
