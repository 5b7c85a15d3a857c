import Geocube.Decode.Basic
import Geocube.Geometry.Basic
import Geocube.Time.Range

/-!
Search fields: their types, and the values read for them from documents.

A field is text, a number, an instant, a range of numbers, a range of
instants, or a region. Type names have aliases: `double`, `float` and
`integer` all mean `numeric`, and likewise for the range types.

Reading a value is forgiving: text may come from a number or a boolean, and a
number from text that reads as one after trimming blanks.
-/

namespace Geocube

/-- The type of a search field. -/
inductive FieldType where
  | string
  | numeric
  | numericRange
  | datetime
  | datetimeRange
  | spatial
  deriving DecidableEq, Repr, Inhabited

namespace FieldType

def isRange : FieldType → Bool
  | .numericRange | .datetimeRange => true
  | _ => false

/-- The canonical name. -/
def name : FieldType → String
  | .string => "string"
  | .numeric => "numeric"
  | .numericRange => "numeric-range"
  | .datetime => "datetime"
  | .datetimeRange => "datetime-range"
  | .spatial => "spatial"

/-- Every accepted name with its type, in the order messages list them: per
type its names in alphabetical order. -/
def names : List (String × FieldType) :=
  [("string", .string),
   ("double", .numeric), ("float", .numeric), ("integer", .numeric), ("numeric", .numeric),
   ("double-range", .numericRange), ("float-range", .numericRange),
   ("integer-range", .numericRange), ("numeric-range", .numericRange),
   ("datetime", .datetime), ("datetime-range", .datetimeRange), ("spatial", .spatial)]

def decoder : Decoder FieldType := Decode.unitVariant names (names.map (·.1))

end FieldType

/-- A value read from a document for one search field. -/
inductive FieldValue where
  | text (s : String)
  | number (x : Float)
  | time (t : Instant)
  /-- A range of numbers, low end first. -/
  | numberRange (lo hi : Float)
  | timeRange (r : TimeRange)
  | spatial (g : Geometry)
  deriving Inhabited

namespace FieldValue

def fieldType : FieldValue → FieldType
  | .text _ => .string
  | .number _ => .numeric
  | .time _ => .datetime
  | .numberRange .. => .numericRange
  | .timeRange _ => .datetimeRange
  | .spatial _ => .spatial

/-- The time span of an instant or a range of instants. -/
def timeSpan? : FieldValue → Option TimeRange
  | .time t => some (TimeRange.instant t)
  | .timeRange r => some r
  | _ => none

/-- The numeric span of a number or a range of numbers. -/
def numberSpan? : FieldValue → Option (Float × Float)
  | .number x => some (x, x)
  | .numberRange lo hi => some (lo, hi)
  | _ => none

end FieldValue

/-- The text of a number as documents write it. -/
def numberText : Document → Option String
  | .int i => some (toString i)
  | .float x => some (Decimal.jsonText x)
  | _ => none

/-- Text from a string, a number or a boolean. -/
def asText : Document → Option String
  | .str s => some s
  | .bool b => some (toString b)
  | d => numberText d

/-- A number from a number, or from text that reads as one after trimming. -/
def asNumber : Document → Option Float
  | .str s => Decimal.readFloat? (Text.trim s)
  | d => d.asF64?

/-- An instant from text. -/
def asTime : Document → Option Instant
  | .str s => (Instant.parse s).toOption
  | _ => none

end Geocube
