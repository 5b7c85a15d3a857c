import Geocube.Document.Basic

/-!
Paths into documents, and the comparisons that walk them.

A path is a list of keys. Read from a document, a key selects the entry of a
mapping, or, when it is the decimal text of a position, the item of a list; a
`null` reached at the end counts as nothing found. Written into a document, a
path is walked with the document changed in place: a `null` on the way becomes
an empty mapping, a missing key gets an empty mapping, and any other value that
is not a mapping stops the walk where it stands, keeping what was changed so far.

`Document.contains` asks whether a document has everything a template asks
for, and `Document.leaves` lists the values that are not non-empty mappings
under their paths, in key order.
-/

namespace Geocube
namespace Document

/-- A path of keys into a document. -/
structure Path where
  keys : List String
  deriving Inhabited, BEq

namespace Path

/-- The path of the non-empty parts of a dotted text: leading, trailing and
doubled dots add no key. -/
def dotted (s : String) : Path := ⟨(s.splitOn ".").filter (fun k => !k.isEmpty)⟩

def isEmpty (p : Path) : Bool := p.keys.isEmpty

/-- The keys joined by dots. -/
def text (p : Path) : String := ".".intercalate p.keys

end Path

/-- The list position a key names: decimal digits, after at most one plus
sign, of a value that fits an unsigned 64-bit word. Leading zeros are allowed. -/
def position? (k : String) : Option Nat :=
  let digits := match k.toList with
    | '+' :: rest => rest
    | cs => cs
  if digits.isEmpty || !digits.all Char.isDigit then none
  else
    let n := digits.foldl (fun acc c => acc * 10 + (c.toNat - '0'.toNat)) 0
    if n < pow2 64 then some n else none

/-- The value one key selects: an entry of a mapping or an item of a list. -/
def child? (d : Document) (k : String) : Option Document :=
  match d with
  | .obj fs => fs.lookup k
  | .arr xs => (position? k).bind (fun i => xs[i]?)
  | _ => none

/-- The value at the end of a key list, `null` included. -/
def walk? : Document → List String → Option Document
  | d, [] => some d
  | d, k :: rest => (d.child? k).bind (fun c => walk? c rest)

/-- The value a path selects; a `null` there counts as nothing. -/
def find? (d : Document) (p : Path) : Option Document :=
  match d.walk? p.keys with
  | some .null => none
  | r => r

/-- The value a write walks into: a `null` is first replaced by an empty mapping. -/
def orEmpty : Document → Document
  | .null => Document.empty
  | d => d

/-- Write a value at the end of a key list, walking the document and changing
it in place: each key but the last enters its entry, which is created empty when
missing, and the last key's entry is set. A `null` met on the way becomes an
empty mapping first; any other value that is not a mapping stops the walk. The
result is the document as the walk leaves it, and whether the value was written.
The empty key list replaces the whole document. -/
def write : Document → List String → Document → Document × Bool
  | _, [], v => (v, true)
  | d, [k], v =>
    match orEmpty d with
    | .obj fs => (.obj (setField k v fs), true)
    | d' => (d', false)
  | d, k :: k' :: rest, v =>
    match orEmpty d with
    | .obj fs =>
      let (c, ok) := write ((fs.lookup k).getD Document.empty) (k' :: rest) v
      (.obj (setField k c fs), ok)
    | d' => (d', false)

/-- Whether a number equals another as doubles: integers are compared after
rounding to the nearest double, and zero equals negative zero. -/
def sameNumber (a b : Document) : Option Bool :=
  match a.asF64?, b.asF64? with
  | some x, some y => some (x == y)
  | _, _ => none

mutual

/-- Whether a document has everything a template asks for: every entry of a
template mapping is present and contained, a template list has as many items,
each contained in its place, numbers agree as doubles, and any other template
value is equal to the document. -/
def contains (d : Document) : Document → Bool
  | .obj ts =>
    match d with
    | .obj fs => containsFields fs ts
    | _ => false
  | .arr ts =>
    match d with
    | .arr xs => xs.length == ts.length && containsItems xs ts
    | _ => false
  | t => (sameNumber d t).getD (same t d)

def containsFields (fs : List (String × Document)) : List (String × Document) → Bool
  | [] => true
  | (k, t) :: ts =>
    (match fs.lookup k with
      | some v => contains v t
      | none => false) && containsFields fs ts

def containsItems : List Document → List Document → Bool
  | x :: xs, t :: ts => contains x t && containsItems xs ts
  | _, _ => true

end

mutual

/-- The values that are not non-empty mappings, each with the keys that lead to
it from the top, in key order. An empty mapping is a leaf of its own. -/
def leaves : Document → List (List String × Document)
  | .obj [] => [([], .obj [])]
  | .obj fs => fieldLeaves fs
  | d => [([], d)]

def fieldLeaves : List (String × Document) → List (List String × Document)
  | [] => []
  | (k, v) :: fs => (leaves v).map (fun (p, x) => (k :: p, x)) ++ fieldLeaves fs

end

end Document
end Geocube
