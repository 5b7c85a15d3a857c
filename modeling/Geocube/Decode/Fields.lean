import Geocube.Decode.Basic

/-!
Decoding records field by field.

A record is read from a mapping or from a list. From a mapping, the entries
are visited in key order: an entry naming a field (by its name or an alias) is
decoded at once, a second entry for the same field is refused, and other keys
are ignored; only after the last entry are missing fields reported, the first
one in declaration order. So the failure reported is the one met first in that
walk, which `Fields` finds by ranking each failure by where the walk meets it:
the entry's position, or, for a missing field, the number of entries plus the
field's index.

From a list, the items are the fields in declaration order; a missing item is
a wrong length unless the field has a default, and items left over are refused.
-/

namespace Geocube
namespace Decode

/-- A failure together with the step of the walk at which it is met. -/
abbrev Ranked (α : Type) := Except (Nat × DecodeError) α

/-- The earlier of two ranked outcomes' failures, or both values. -/
def Ranked.both {α β : Type} : Ranked α → Ranked β → Ranked (α × β)
  | .ok a, .ok b => .ok (a, b)
  | .error e, .ok _ => .error e
  | .ok _, .error e => .error e
  | .error e1, .error e2 => .error (if e2.1 < e1.1 then e2 else e1)

/-- How a field that is absent is treated. -/
inductive Absent (α : Type) where
  /-- Absence is an error. -/
  | required
  /-- Absent from a mapping gives the value; absent from a list is an error. -/
  | optional (v : α)
  /-- Absence gives the value in both forms. -/
  | defaulted (v : α)

/-- A reader of some fields of a record. -/
structure Fields (α : Type) where
  /-- Number of fields read, which is also the number of list items used. -/
  count : Nat
  /-- Read from the entries of a mapping; `base` is the index of the first field. -/
  ofMap : List (String × Document) → Nat → Ranked α
  /-- Read from list items, the first field at index `base`; gives back the
  items not used. `expected` describes the whole record for length errors. -/
  ofSeq : String → Nat → List Document → Except DecodeError (α × List Document)

namespace Fields

def pure {α : Type} (a : α) : Fields α where
  count := 0
  ofMap _ _ := .ok a
  ofSeq _ _ items := .ok (a, items)

def seq {α β : Type} (f : Fields (α → β)) (x : Fields α) : Fields β where
  count := f.count + x.count
  ofMap es base := (Ranked.both (f.ofMap es base) (x.ofMap es (base + f.count))).map
    fun (g, a) => g a
  ofSeq expected base items := do
    let (g, rest) ← f.ofSeq expected base items
    let (a, rest) ← x.ofSeq expected (base + f.count) rest
    return (g a, rest)

instance : Applicative Fields where
  pure := Fields.pure
  seq f x := Fields.seq f (x ())

/-- The positions and values of the entries named by any of `names`. -/
def hits (names : List String) (es : List (String × Document)) : List (Nat × Document) :=
  (es.zipIdx.filter fun ((k, _), _) => names.contains k).map fun ((_, v), i) => (i, v)

/-- One field, named `name` (also accepted under `aliases`). -/
def field {α : Type} (name : String) (aliases : List String) (absent : Absent α)
    (dec : Decoder α) : Fields α where
  count := 1
  ofMap es base :=
    match hits (name :: aliases) es with
    | [] =>
      match absent with
      | .required => .error (es.length + base, .missingField name)
      | .optional v | .defaulted v => .ok v
    | (i, v) :: more =>
      match dec v with
      | .error e => .error (i, e)
      | .ok a =>
        match more with
        | [] => .ok a
        | (j, _) :: _ => .error (j, .duplicateField name)
  ofSeq expected base items :=
    match items with
    | [] =>
      match absent with
      | .defaulted v => .ok (v, [])
      | _ => .error (.invalidLength base expected)
    | x :: rest => (dec x).map fun a => (a, rest)

/-- A field that must be present. -/
def req {α : Type} (name : String) (dec : Decoder α) : Fields α := field name [] .required dec

/-- A field of optional type: absent or `null` is nothing. -/
def opt {α : Type} (name : String) (dec : Decoder α) : Fields (Option α) :=
  field name [] (.optional none) (optional dec)

/-- A field with a default for when it is absent. -/
def dflt {α : Type} (name : String) (v : α) (dec : Decoder α) : Fields α :=
  field name [] (.defaulted v) dec

end Fields

/-- A record named `name`, from a mapping or a list. -/
def record {α : Type} (name : String) (fs : Fields α) : Decoder α
  | .obj es => (fs.ofMap es 0).mapError (·.2)
  | .arr items => do
    let n := fs.count
    let expected := "struct " ++ name ++ " with " ++ toString n ++
      (if n == 1 then " element" else " elements")
    let (a, rest) ← fs.ofSeq expected 0 items
    if rest.isEmpty then .ok a else .error (.invalidLength items.length "fewer elements in array")
  | d => mismatch ("struct " ++ name) d

end Decode
end Geocube
