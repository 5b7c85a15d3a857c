import Geocube.Catalog.Dataset

/-!
Dataset searches.

A search names a product, constraints on search fields, a query polygon,
whether archived datasets count, an ordering field and a limit. It is planned
against the known products: every constrained field must be defined by some
candidate product, the candidates shrink to those defining all of them, and
each constraint is checked against its field's type, its value converted to
that type. Without a named product, a field whose type differs between
candidates is refused as ambiguous.

A planned search runs in two phases: a cheap filter on product, archived
state, acquisition time and geographic bounds, then an exact check of every
constraint and of the polygon.

Constraints compare inclusively: an equality against a range field asks that
the range contains the value, a range against any field asks that the two
overlap.
-/

namespace Geocube

/-- A value in a search constraint. -/
inductive TermValue where
  | text (s : String)
  | number (x : Float)
  | time (t : Instant)
  deriving Inhabited

/-- The inspection form of a value, as error messages show it. -/
def TermValue.inspectText : TermValue → String
  | .text s => "Text(" ++ Text.quoted s ++ ")"
  | .number x => "Number(" ++ Decimal.inspectText x ++ ")"
  | .time t => "Time(" ++ t.inspectText ++ ")"

/-- A constraint on one field. -/
inductive Term where
  /-- Equality with a scalar field, containment in a range field. -/
  | eq (v : TermValue)
  /-- Overlap with a range field, containment of a scalar field; both ends
  included. -/
  | range (lo hi : TermValue)
  deriving Inhabited

/-- What a search asks for. -/
structure SearchTerms where
  product : Option String := none
  fields : List (String × Term) := []
  geopolygon : Option Geometry := none
  includeArchived : Bool := false
  orderBy : Option String := none
  limit : Option Nat := none
  deriving Inhabited

namespace SearchTerms

/-- Add an equality constraint. -/
def eq (s : SearchTerms) (field : String) (v : TermValue) : SearchTerms :=
  { s with fields := s.fields ++ [(field, .eq v)] }

/-- Add a range constraint. -/
def range (s : SearchTerms) (field : String) (lo hi : TermValue) : SearchTerms :=
  { s with fields := s.fields ++ [(field, .range lo hi)] }

/-- Constrain the acquisition time to overlap `[a, b]`. -/
def time (s : SearchTerms) (a b : Instant) : SearchTerms := s.range timeField (.time a) (.time b)

end SearchTerms

/-- A constraint checked against its field's type. -/
structure Predicate where
  field : String
  fieldType : FieldType
  term : Term
  deriving Inhabited

/-- Whether `[lo, hi]` and `[a, b]` share a point. -/
def spansOverlap {α : Type} [LE α] [DecidableRel (α := α) (· ≤ ·)] (lo hi a b : α) : Bool :=
  decide (lo ≤ b) && decide (a ≤ hi)

namespace Predicate

/-- Whether a dataset's value for the field satisfies the constraint. Texts
only meet text equality, numbers only numeric constraints, times only time
constraints; spatial values never satisfy a constraint. -/
def evaluate (p : Predicate) (v : FieldValue) : Bool :=
  match v with
  | .text s =>
    match p.term with
    | .eq (.text t) => t == s
    | _ => false
  | .number _ | .numberRange .. =>
    match v.numberSpan?, p.term with
    | some (lo, hi), .eq (.number x) => spansOverlap lo hi x x
    | some (lo, hi), .range (.number a) (.number b) => spansOverlap lo hi a b
    | _, _ => false
  | .time _ | .timeRange _ =>
    match v.timeSpan?, p.term with
    | some r, .eq (.time t) => spansOverlap r.start r.stop t t
    | some r, .range (.time a) (.time b) => spansOverlap r.start r.stop a b
    | _, _ => false
  | .spatial _ => false

end Predicate

/-- A constraint value converted to a field's type: numbers and times become
text for text fields, text reads as a number or a time for numeric and time
fields. -/
def coerceTerm (field : String) (ft : FieldType) (v : TermValue) : CatalogResult TermValue :=
  let invalid := fun (reason : String) => CatalogError.query (.invalidValue field reason)
  match ft, v with
  | .string, .text s => .ok (.text s)
  | .string, .number x => .ok (.text (Decimal.plainText x))
  | .string, .time t => .ok (.text t.rfc3339)
  | .numeric, .number x | .numericRange, .number x => .ok (.number x)
  | .numeric, .text s | .numericRange, .text s =>
    match Decimal.readFloat? (Text.trim s) with
    | some x => .ok (.number x)
    | none => .error (invalid ("'" ++ s ++ "' is not a number"))
  | .datetime, .time t | .datetimeRange, .time t => .ok (.time t)
  | .datetime, .text s | .datetimeRange, .text s =>
    match Instant.parse s with
    | .ok t => .ok (.time t)
    | .error e => .error (invalid e.message)
  | .spatial, _ =>
    .error (.query (.unsupportedPredicate field "spatial fields are queried with a geopolygon"))
  | ft, v => .error (invalid (v.inspectText ++ " cannot be compared with a " ++ ft.name ++ " field"))

/-- The ends of a range, the smaller first when they are numbers or times. -/
def orderedEnds (lo hi : TermValue) : TermValue × TermValue :=
  match lo, hi with
  | .number a, .number b => if a > b then (hi, lo) else (lo, hi)
  | .time a, .time b => if b < a then (hi, lo) else (lo, hi)
  | _, _ => (lo, hi)

/-- The cheap first phase of a search. Datasets without a recorded time or
bounds pass those checks. -/
structure CandidateFilter where
  products : List String
  includeArchived : Bool
  time : Option TimeRange
  bounds : Option BoundingBox
  deriving Inhabited

namespace CandidateFilter

/-- Whether a dataset of `product`, archived or not, with the recorded time
and bounds, passes the filter. -/
def accepts (f : CandidateFilter) (product : String) (archived : Bool)
    (time : Option TimeRange) (bounds : Option BoundingBox) : Bool :=
  f.products.contains product && (!archived || f.includeArchived) &&
  (match f.time, time with
    | some q, some t => q.overlaps t
    | _, _ => true) &&
  (match f.bounds, bounds with
    | some q, some b => q.intersects b
    | _, _ => true)

end CandidateFilter

/-- The key a dataset is ordered by: texts before numbers before times; a
range by its start. -/
inductive SortKey where
  | text (s : String)
  | number (x : Float)
  | time (t : Instant)

namespace SortKey

def ofValue : FieldValue → Option SortKey
  | .text s => some (.text s)
  | .number x | .numberRange x _ => some (.number x)
  | .time t => some (.time t)
  | .timeRange r => some (.time r.start)
  | .spatial _ => none

def rank : SortKey → Nat
  | .text _ => 0
  | .number _ => 1
  | .time _ => 2

/-- Strictly before; numbers that do not compare (NaN) are never before. -/
def lt : SortKey → SortKey → Bool
  | .text a, .text b => decide (a < b)
  | .number a, .number b => decide (a < b)
  | .time a, .time b => decide (a < b)
  | a, b => decide (a.rank < b.rank)

end SortKey

/-- Whether a dataset with key `a` goes strictly before one with key `b`:
datasets with a key come before those without. -/
def sortKeyBefore : Option SortKey → Option SortKey → Bool
  | some x, some y => x.lt y
  | some _, none => true
  | none, _ => false

/-- Stable insertion sort: each element moves left past the elements it is
strictly before, and stops at the first it is not. -/
def insertionSort {α : Type} (lt : α → α → Bool) (xs : List α) : List α :=
  let insert := fun (x : α) (rev : List α) =>
    let rec go : List α → List α
      | [] => [x]
      | e :: rest => if lt x e then e :: go rest else x :: e :: rest
    go rev
  (xs.foldl (fun rev x => insert x rev) []).reverse

/-- A search planned against the known products. -/
structure SearchPlan where
  products : List Product
  predicates : List Predicate
  geopolygon : Option Geometry
  /-- The geographic bounds of the query polygon. -/
  geopolygonBounds : Option BoundingBox
  includeArchived : Bool
  orderBy : Option String
  limit : Option Nat
  deriving Inhabited

namespace SearchPlan

/-- The predicate for one constraint on a field of type `ft`. -/
def predicateFor (field : String) (ft : FieldType) : Term → CatalogResult Predicate
  | .eq v => return ⟨field, ft, .eq (← coerceTerm field ft v)⟩
  | .range lo hi => do
    if ft == .string then
      throw (.query (.unsupportedPredicate field "range queries need a numeric or datetime field"))
    let (lo, hi) := orderedEnds (← coerceTerm field ft lo) (← coerceTerm field ft hi)
    return ⟨field, ft, .range lo hi⟩

/-- Plan a search against the known products. -/
def new (terms : SearchTerms) (products : List Product) : CatalogResult SearchPlan := do
  let named := match terms.product with
    | some n => products.filter fun (p : Product) => p.name == n
    | none => products
  let queried := terms.fields.map (·.1) ++ terms.orderBy.toList
  let defines := fun (p : Product) (f : String) => (p.metadataType.field? f).isSome
  for f in queried do
    if !named.isEmpty && !named.any (defines · f) then
      throw (.query (.unknownField f))
  let candidates := named.filter fun p => queried.all (defines p)
  let mut predicates : List Predicate := []
  for (field, term) in terms.fields do
    let types := (candidates.filterMap fun p => (p.metadataType.field? field).map (·.fieldType.name))
    let distinct := types.foldl (fun acc t => if acc.contains t then acc else acc ++ [t]) []
    if distinct.length > 1 && terms.product.isNone then
      throw (.query (.ambiguousField field (distinct.mergeSort (fun a b => decide (a ≤ b)))))
    match candidates.findSome? fun p => (p.metadataType.field? field).map (·.fieldType) with
    | none => pure ()
    | some ft => predicates := predicates ++ [← predicateFor field ft term]
  let bounds ← match terms.geopolygon with
    | some g => match g.toCrs .wgs84 with
      | .ok h => pure h.bounds
      | .error e => throw (.geo e)
    | none => pure none
  return ⟨candidates, predicates, terms.geopolygon, bounds, terms.includeArchived, terms.orderBy,
    terms.limit⟩

/-- No candidate product: the search finds nothing. -/
def isEmpty (p : SearchPlan) : Bool := p.products.isEmpty

def product? (p : SearchPlan) (name : String) : Option Product := p.products.find? (·.name == name)

/-- The first phase: the candidate products, the archived choice, the
constrained acquisition time and the polygon's bounds. -/
def prefilter (p : SearchPlan) : CandidateFilter :=
  let time := p.predicates.findSome? fun q =>
    if q.field != timeField then none
    else match q.term with
      | .range (.time a) (.time b) => some (TimeRange.new a b)
      | .eq (.time t) => some (TimeRange.instant t)
      | _ => none
  ⟨p.products.map (·.name), p.includeArchived, time, p.geopolygonBounds⟩

/-- The second phase: every constraint holds, and the dataset's extent meets
the query polygon. -/
def accepts (p : SearchPlan) (d : Dataset) : Bool :=
  (p.product? d.product.name).isSome && (!d.archived || p.includeArchived) &&
  p.predicates.all (fun q => match d.field q.field with
    | some v => q.evaluate v
    | none => false) &&
  match p.geopolygon with
  | none => true
  | some query =>
    match d.boundsLonLat with
    | none => false
    | some b =>
      (match p.geopolygonBounds with
        | some qb => b.intersects qb
        | none => true) &&
      match d.extent.orElse fun _ => d.extentLonLat with
      | none => false
      | some e => (query.intersects e).toOption.getD false

/-- Order by the ordering field, keeping the given order among equals, then
keep at most `limit` datasets. -/
def finish (p : SearchPlan) (ds : List Dataset) : List Dataset :=
  let sorted := match p.orderBy with
    | some f =>
      let keyOf := fun (d : Dataset) => (d.field f).bind SortKey.ofValue
      insertionSort (fun a b => sortKeyBefore (keyOf a) (keyOf b)) ds
    | none => ds
  match p.limit with
  | some n => sorted.take n
  | none => sorted

end SearchPlan

theorem insertionSort_nil {α : Type} (lt : α → α → Bool) : insertionSort lt [] = [] := rfl

end Geocube
