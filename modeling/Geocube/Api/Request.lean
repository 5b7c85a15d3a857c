import Geocube.Document.Basic
import Geocube.Geo.Crs
import Geocube.Decimal.Read

/-!
Requests and answers of the JSON interface.

A request is a mapping with an `op` and its arguments; an answer is a document.
A failure is answered by an error object `{"error": kind, "message": text}`;
the same object stands inline where one part of a larger answer failed. A
request whose arguments do not have the expected shape is answered with the
kind `BadInput`, and an operation that aborts with the kind `Panic` and no
message.
-/

namespace Geocube
namespace Api

/-- The error object of a failure. -/
def errorDoc (kind message : String) : Document :=
  .ofPairs [("error", .str kind), ("message", .str message)]

/-- The answer of an aborted operation. -/
def panicDoc : Document := .ofPairs [("error", .str "Panic")]

/-- The answer of a request that cannot be carried out as given. -/
def badInput (message : String) : Document := errorDoc "BadInput" message

/-- A step of handling a request: a value, or the answer that ends it. -/
abbrev Step (α : Type) := Except Document α

def geoErrorDoc (e : GeoError) : Document := errorDoc ("GeoError::" ++ e.kind) e.message

/-- Lift a spatial failure into the answer that reports it. -/
def geo {α : Type} (r : Except GeoError α) : Step α :=
  match r with
  | .ok v => .ok v
  | .error e => .error (geoErrorDoc e)

/-- Either the value's document or the error object, for inline results. -/
def inline {α ε : Type} (r : Except ε α) (enc : α → Document) (err : ε → Document) : Document :=
  match r with
  | .ok v => enc v
  | .error e => err e

/-- An argument; `null` counts as absent. -/
def arg? (req : Document) (k : String) : Option Document :=
  match req.get? k with
  | some .null => none
  | other => other

/-- A required argument. -/
def arg (req : Document) (k : String) : Step Document :=
  match arg? req k with
  | some v => .ok v
  | none => .error (badInput s!"missing field '{k}'")

/-- A double: a number, or the text of a non-finite value. -/
def asFloat? (d : Document) : Option Float :=
  match d with
  | .int i => some (Binary64.ofInt i)
  | .float x => some x
  | .str s =>
    if s == "NaN" || s == "nan" then some Binary64.nan
    else if s == "Infinity" || s == "inf" then some Binary64.inf
    else if s == "-Infinity" || s == "-inf" then some (-Binary64.inf)
    else none
  | _ => none

/-- A double, or a refusal of the value. -/
def float (d : Document) : Step Float :=
  match asFloat? d with
  | some x => .ok x
  | none => .error (badInput "expected a number")

def floatArg (req : Document) (k : String) : Step Float := do
  float (← arg req k)

def floatArg? (req : Document) (k : String) : Step (Option Float) :=
  match arg? req k with
  | none => .ok none
  | some d => (float d).map some

def str (d : Document) : Step String :=
  match d with
  | .str s => .ok s
  | _ => .error (badInput "expected a string")

def strArg (req : Document) (k : String) : Step String := do
  str (← arg req k)

def strArg? (req : Document) (k : String) : Step (Option String) :=
  match arg? req k with
  | none => .ok none
  | some d => (str d).map some

def nat (d : Document) : Step Nat :=
  match d with
  | .int i => if 0 ≤ i then .ok i.toNat else .error (badInput "expected a non-negative integer")
  | _ => .error (badInput "expected an integer")

def natArg (req : Document) (k : String) : Step Nat := do
  nat (← arg req k)

def natArg? (req : Document) (k : String) : Step (Option Nat) :=
  match arg? req k with
  | none => .ok none
  | some d => (nat d).map some

def int (d : Document) : Step Int :=
  match d with
  | .int i => .ok i
  | _ => .error (badInput "expected an integer")

def bool (d : Document) : Step Bool :=
  match d with
  | .bool b => .ok b
  | _ => .error (badInput "expected a boolean")

def boolArg? (req : Document) (k : String) : Step (Option Bool) :=
  match arg? req k with
  | none => .ok none
  | some d => (bool d).map some

def boolArgOr (req : Document) (k : String) (dflt : Bool) : Step Bool :=
  (boolArg? req k).map (·.getD dflt)

def list (d : Document) : Step (List Document) :=
  match d with
  | .arr xs => .ok xs
  | _ => .error (badInput "expected a list")

def listArg (req : Document) (k : String) : Step (List Document) := do
  list (← arg req k)

def listArg? (req : Document) (k : String) : Step (Option (List Document)) :=
  match arg? req k with
  | none => .ok none
  | some d => (list d).map some

def obj (d : Document) : Step (List (String × Document)) :=
  match d with
  | .obj fs => .ok fs
  | _ => .error (badInput "expected a mapping")

/-- A list of doubles. -/
def floats (d : Document) : Step (List Float) := do
  (← list d).mapM float

/-- A list of exactly `n` doubles. -/
def floatsN (d : Document) (n : Nat) : Step (List Float) := do
  let xs ← floats d
  if xs.length == n then .ok xs else .error (badInput s!"expected {n} numbers")

/-- A point `[x, y]`. -/
def point (d : Document) : Step (Float × Float) := do
  match ← floatsN d 2 with
  | [x, y] => .ok (x, y)
  | _ => .error (badInput "expected a point")

def points (d : Document) : Step (List (Float × Float)) := do
  (← list d).mapM point

/-- A box `[minX, minY, maxX, maxY]`, unchecked. -/
def bbox (d : Document) : Step BoundingBox := do
  match ← floatsN d 4 with
  | [a, b, c, e] => .ok ⟨a, b, c, e⟩
  | _ => .error (badInput "expected a bounding box")

/-- A system named by its text. -/
def crs (d : Document) : Step Crs := do
  geo (Crs.parse (← str d))

def crsArg (req : Document) (k : String) : Step Crs := do
  crs (← arg req k)

/-- Encodings of answer values. -/
def fl (x : Float) : Document := .float x

def pointDoc (p : Float × Float) : Document := .arr [.float p.1, .float p.2]

def pointsDoc (ps : List (Float × Float)) : Document := .arr (ps.map pointDoc)

def bboxDoc (b : BoundingBox) : Document := .arr [.float b.minX, .float b.minY, .float b.maxX, .float b.maxY]

def optDoc {α : Type} (o : Option α) (enc : α → Document) : Document :=
  match o with
  | some v => enc v
  | none => .null

/-- Run a step to its answer. -/
def finish (r : Step Document) : Document :=
  match r with
  | .ok d => d
  | .error d => d

end Api
end Geocube
