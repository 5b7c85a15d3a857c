import Geocube.Decimal.Layout

/-!
Documents: the JSON values that definitions, dataset records and answers are
made of.

Numbers keep the distinction the data format makes between integers (any value
of a signed or unsigned 64-bit word) and floating-point numbers. Mappings keep
their entries sorted by key, each key once; `Document.set` is the only way an
entry is added, so the order of a mapping is always the order of its keys.
-/

namespace Geocube

/-- A JSON value. -/
inductive Document where
  | null
  | bool (b : Bool)
  | int (i : Int)
  | float (x : Float)
  | str (s : String)
  | arr (items : List Document)
  | obj (fields : List (String × Document))
  deriving Inhabited

namespace Document

/-- The empty mapping. -/
def empty : Document := .obj []

/-- Insert or replace the entry of a key in a sorted entry list. -/
def setField (k : String) (v : Document) : List (String × Document) → List (String × Document)
  | [] => [(k, v)]
  | (k', v') :: rest =>
    if k < k' then (k, v) :: (k', v') :: rest
    else if k == k' then (k, v) :: rest
    else (k', v') :: setField k v rest

/-- Remove the entry of a key. -/
def eraseField (k : String) : List (String × Document) → List (String × Document)
  | [] => []
  | (k', v') :: rest => if k == k' then rest else (k', v') :: eraseField k rest

/-- Entries sorted by key from pairs in any order; a later pair wins over an
earlier one with the same key. -/
def sortFields (kvs : List (String × Document)) : List (String × Document) :=
  kvs.foldl (fun acc (k, v) => setField k v acc) []

/-- A mapping from pairs in any order. -/
def ofPairs (kvs : List (String × Document)) : Document := .obj (sortFields kvs)

/-- Look a key up in a mapping; `none` for other values. -/
def get? (d : Document) (k : String) : Option Document :=
  match d with
  | .obj fs => fs.lookup k
  | _ => none

/-- The mapping with one entry set; other values become a mapping of one entry. -/
def set (d : Document) (k : String) (v : Document) : Document :=
  match d with
  | .obj fs => .obj (setField k v fs)
  | _ => .obj [(k, v)]

def isNull : Document → Bool
  | .null => true
  | _ => false

def isObj : Document → Bool
  | .obj _ => true
  | _ => false

def asStr? : Document → Option String
  | .str s => some s
  | _ => none

def asArr? : Document → Option (List Document)
  | .arr xs => some xs
  | _ => none

def asObj? : Document → Option (List (String × Document))
  | .obj fs => some fs
  | _ => none

def asBool? : Document → Option Bool
  | .bool b => some b
  | _ => none

/-- Any number as a double: integers are rounded to the nearest double. -/
def asF64? : Document → Option Float
  | .int i => some (Binary64.ofInt i)
  | .float x => some x
  | _ => none

/-- A non-negative integer that fits an unsigned 64-bit word. -/
def asU64? : Document → Option Nat
  | .int i => if 0 ≤ i then some i.toNat else none
  | _ => none

/-- An integer that fits a signed 64-bit word. -/
def asI64? : Document → Option Int
  | .int i => if i < pow2 63 then some i else none
  | _ => none

/-- A double as a document; a value that is not finite has no number form and
becomes `null`. -/
def ofFloat (x : Float) : Document := if x.isFinite then .float x else .null

/-- A list of strings. -/
def strs (xs : List String) : Document := .arr (xs.map .str)

mutual

/-- Equality of values as the data format defines it: integers equal integers
of the same value, doubles equal doubles comparing equal, and an integer never
equals a double. -/
def same : Document → Document → Bool
  | .null, .null => true
  | .bool a, .bool b => a == b
  | .int a, .int b => a == b
  | .float a, .float b => a == b
  | .str a, .str b => a == b
  | .arr xs, .arr ys => sameItems xs ys
  | .obj xs, .obj ys => sameFields xs ys
  | _, _ => false

def sameItems : List Document → List Document → Bool
  | [], [] => true
  | x :: xs, y :: ys => same x y && sameItems xs ys
  | _, _ => false

def sameFields : List (String × Document) → List (String × Document) → Bool
  | [], [] => true
  | (k, x) :: xs, (k', y) :: ys => k == k' && same x y && sameFields xs ys
  | _, _ => false

end

instance : BEq Document := ⟨same⟩

end Document
end Geocube
