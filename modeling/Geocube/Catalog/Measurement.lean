import Geocube.Decode.Fields
import Geocube.Catalog.Field

/-!
Measurements: the bands of a product, and the pixel types they are stored in.

A pixel type says which numbers a band can hold exactly. An integer type holds
the whole numbers of its range, `bool` holds 0 and 1, and the floating-point
types hold everything; NaN fits only the floating-point types. Coercing a
computed value into an integer type rounds it (halves away from zero) and then
clamps it to the type's range.

A band may describe bit flags: named groups of bits and the meaning of each
value they take.
-/

namespace Geocube

/-- The pixel type of a band. -/
inductive DType where
  | bool
  | int8
  | uint8
  | int16
  | uint16
  | int32
  | uint32
  | int64
  | uint64
  | float32
  | float64
  deriving DecidableEq, Repr, Inhabited

namespace DType

def all : List DType :=
  [.bool, .int8, .uint8, .int16, .uint16, .int32, .uint32, .int64, .uint64, .float32, .float64]

/-- The lowercase name documents use. -/
def name : DType → String
  | .bool => "bool"
  | .int8 => "int8"
  | .uint8 => "uint8"
  | .int16 => "int16"
  | .uint16 => "uint16"
  | .int32 => "int32"
  | .uint32 => "uint32"
  | .int64 => "int64"
  | .uint64 => "uint64"
  | .float32 => "float32"
  | .float64 => "float64"

/-- The capitalised name messages use. -/
def title : DType → String
  | .bool => "Bool"
  | .int8 => "Int8"
  | .uint8 => "Uint8"
  | .int16 => "Int16"
  | .uint16 => "Uint16"
  | .int32 => "Int32"
  | .uint32 => "Uint32"
  | .int64 => "Int64"
  | .uint64 => "Uint64"
  | .float32 => "Float32"
  | .float64 => "Float64"

def decoder : Decoder DType :=
  Decode.unitVariant (all.map fun t => (t.name, t)) (all.map name)

def isFloat : DType → Bool
  | .float32 | .float64 => true
  | _ => false

/-- The least and greatest value of an integer type. -/
def intRange? : DType → Option (Int × Int)
  | .int8 => some (-(pow2 7), pow2 7 - 1)
  | .uint8 => some (0, pow2 8 - 1)
  | .int16 => some (-(pow2 15), pow2 15 - 1)
  | .uint16 => some (0, pow2 16 - 1)
  | .int32 => some (-(pow2 31), pow2 31 - 1)
  | .uint32 => some (0, pow2 32 - 1)
  | .int64 => some (-(pow2 63), pow2 63 - 1)
  | .uint64 => some (0, pow2 64 - 1)
  | _ => none

/-- Whether a value can be stored exactly. -/
def canRepresent (t : DType) (v : Float) : Bool :=
  if v.isNaN then t.isFloat
  else match t, t.intRange? with
    | .bool, _ => v == 0.0 || v == 1.0
    | _, some (lo, hi) =>
      Binary64.isIntegral v &&
        match Binary64.truncToInt? v with
        | some i => lo ≤ i && i ≤ hi
        | none => false
    | _, none => true

/-- A computed value brought into the type: integer types round and saturate,
`bool` is 1 for anything but zero, floating-point types keep the value. -/
def coerce (t : DType) (v : Float) : Float :=
  if v.isNaN || t.isFloat then v
  else match t, t.intRange? with
    | .bool, _ => if v != 0.0 then 1.0 else 0.0
    | _, some (lo, hi) => fclamp (Binary64.roundHalfAway v) (Binary64.ofInt lo) (Binary64.ofInt hi)
    | _, none => v

end DType

/-- The bit positions of a flag: one bit or a list. -/
inductive Bits where
  | one (b : Nat)
  | many (bs : List Nat)
  deriving Inhabited

namespace Bits

def positions : Bits → List Nat
  | .one b => [b]
  | .many bs => bs

def decoder : Decoder Bits :=
  Decode.untagged "Bits"
    [fun d => (Decode.u32 d).map .one, fun d => (Decode.listOf Decode.u32 d).map .many]

def toDocument : Bits → Document
  | .one b => .int (b : Int)
  | .many bs => .arr (bs.map fun (b : Nat) => Document.int (b : Int))

end Bits

/-- One named flag of a bit-field band. -/
structure FlagDefinition where
  bits : Bits
  /-- Meaning of each value of the bits, keyed by the value's decimal text. -/
  values : List (String × Document)
  description : Option String
  deriving Inhabited

namespace FlagDefinition

open Decode.Fields in
def decoder : Decoder FlagDefinition :=
  Decode.record "FlagDefinition" <|
    FlagDefinition.mk
      <$> req "bits" Bits.decoder
      <*> req "values" (Decode.mapOf Decode.any)
      <*> dflt "description" none (Decode.optional Decode.text)

def toDocument (f : FlagDefinition) : Document :=
  .ofPairs <| [("bits", f.bits.toDocument), ("values", .obj f.values)] ++
    (match f.description with | some d => [("description", Document.str d)] | none => [])

end FlagDefinition

/-- A band of a product. -/
structure Measurement where
  name : String
  dtype : DType
  nodata : Option Float
  units : String
  aliases : List String
  scaleFactor : Option Float
  addOffset : Option Float
  flagsDefinition : Option (List (String × FlagDefinition))
  spectralDefinition : Option Document
  /-- The extra dimension the band varies along. -/
  extraDim : Option String
  deriving Inhabited

namespace Measurement

/-- A nodata value: a number, text that reads as one (such as `"nan"`), or
nothing. -/
def nodataDecoder : Decoder (Option Float)
  | .null => .ok none
  | .str s =>
    match Decimal.readFloat? (Text.trim s) with
    | some x => .ok (some x)
    | none => .error (.custom ("invalid nodata value '" ++ s ++ "'"))
  | d =>
    match d.asF64? with
    | some x => .ok (some x)
    | none => .error (.custom ("invalid nodata value " ++ d.compact))

open Decode.Fields in
def decoder : Decoder Measurement :=
  Decode.record "Measurement" <|
    Measurement.mk
      <$> req "name" Decode.text
      <*> req "dtype" DType.decoder
      <*> dflt "nodata" none nodataDecoder
      <*> dflt "units" "1" Decode.text
      <*> dflt "aliases" [] (Decode.listOf Decode.text)
      <*> dflt "scale_factor" none (Decode.optional Decode.double)
      <*> dflt "add_offset" none (Decode.optional Decode.double)
      <*> dflt "flags_definition" none (Decode.optional (Decode.mapOf FlagDefinition.decoder))
      <*> dflt "spectral_definition" none (Decode.optional Decode.any)
      <*> dflt "extra_dim" none (Decode.optional Decode.text)

/-- The band as a definition writes it, leaving out what is empty. -/
def toDocument (m : Measurement) : Document :=
  let opt := fun {α : Type} (k : String) (o : Option α) (enc : α → Document) =>
    match o with | some v => [(k, enc v)] | none => []
  .ofPairs <| [("name", .str m.name), ("dtype", .str m.dtype.name)] ++
    opt "nodata" m.nodata Document.ofFloat ++ [("units", .str m.units)] ++
    (if m.aliases.isEmpty then [] else [("aliases", Document.strs m.aliases)]) ++
    opt "scale_factor" m.scaleFactor Document.ofFloat ++ opt "add_offset" m.addOffset Document.ofFloat ++
    opt "flags_definition" m.flagsDefinition
      (fun fs => .ofPairs (fs.map fun (k, f) => (k, f.toDocument))) ++
    opt "spectral_definition" m.spectralDefinition id ++ opt "extra_dim" m.extraDim .str

/-- The nodata value as a fill value; NaN when the band declares none. -/
def fillValue (m : Measurement) : Float := m.nodata.getD Binary64.nan

/-- Whether a name is the band's name or one of its aliases. -/
def answersTo (m : Measurement) (n : String) : Bool := m.name == n || m.aliases.contains n

/-- A stored value in physical units. -/
def toPhysical (m : Measurement) (v : Float) : Float :=
  v * m.scaleFactor.getD 1.0 + m.addOffset.getD 0.0

end Measurement

/-- A flag summarised: its bits and its values with their meanings, by value. -/
structure FlagDescription where
  name : String
  bits : List Nat
  values : List (Nat × String)
  description : Option String

/-- The meaning of a flag value: text as it is, anything else as JSON. -/
def flagMeaning : Document → String
  | .str s => s
  | d => d.compact

/-- A value key read as an unsigned 64-bit number. -/
def flagValue? (k : String) : Option Nat := Decimal.readNat? k Decimal.u64Max

/-- The flags of a band, by name, each with its values sorted by number; keys
that are not numbers are left out. -/
def describeFlags (flags : List (String × FlagDefinition)) : List FlagDescription :=
  flags.map fun (name, d) =>
    let vs := d.values.filterMap fun (k, v) => (flagValue? k).map fun n => (n, flagMeaning v)
    ⟨name, d.bits.positions, vs.mergeSort (fun a b => a.1 ≤ b.1), d.description⟩

end Geocube
