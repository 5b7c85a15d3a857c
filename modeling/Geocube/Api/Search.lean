import Geocube.Api.Dataset
import Geocube.Catalog.Search

/-!
Answers about planning searches and checking constraints.
-/

namespace Geocube
namespace Api

/-- A constraint value: a bare string or number, or `{text}`, `{number}` or
`{time}`. -/
def termValueOf (d : Document) : Step TermValue :=
  match d with
  | .str s => .ok (.text s)
  | .int _ | .float _ => return .number (← float d)
  | .obj _ =>
    match arg? d "text", arg? d "number", arg? d "time" with
    | some t, _, _ => return .text (← str t)
    | none, some n, _ => return .number (← float n)
    | none, none, some t => do
      match Instant.parse (← str t) with
      | .ok i => return .time i
      | .error e => throw (badInput e.message)
    | none, none, none => throw (badInput "term value needs text, number or time")
  | _ => .error (badInput "term value must be a string, a number or an object")

def termValueDoc : TermValue → Document
  | .text s => .ofPairs [("text", .str s)]
  | .number x => .ofPairs [("number", fl x)]
  | .time t => .ofPairs [("time", .str t.text)]

/-- A constraint: `{eq: v}` or `{range: [lo, hi]}`. -/
def termOf (d : Document) : Step Term := do
  if let some v := arg? d "eq" then
    return .eq (← termValueOf v)
  match arg? d "range" with
  | some r =>
    match ← list r with
    | [lo, hi] => return .range (← termValueOf lo) (← termValueOf hi)
    | _ => throw (badInput "range needs two values")
  | none => throw (badInput "term needs eq or range")

def termDoc : Term → Document
  | .eq v => .ofPairs [("eq", termValueDoc v)]
  | .range lo hi => .ofPairs [("range", .arr [termValueDoc lo, termValueDoc hi])]

/-- Search terms: `{product?, fields?: [[name, term]], geopolygon?,
include_archived?, order_by?, limit?}`. -/
def searchTermsOf (d : Document) : Step SearchTerms := do
  let fields ← match ← listArg? d "fields" with
    | some fs => fs.mapM fun f => do
      match ← list f with
      | [n, t] => return (← str n, ← termOf t)
      | _ => throw (badInput "a field constraint is [name, term]")
    | none => pure []
  let poly ← match arg? d "geopolygon" with
    | some g => some <$> geometryArg g
    | none => pure none
  return { product := ← strArg? d "product", fields := fields, geopolygon := poly,
           includeArchived := ← boolArgOr d "include_archived" false,
           orderBy := ← strArg? d "order_by", limit := ← natArg? d "limit" }

def predicateDoc (p : Predicate) : Document :=
  .ofPairs [("field", .str p.field), ("type", .str p.fieldType.name), ("term", termDoc p.term)]

def candidateFilterDoc (f : CandidateFilter) : Document :=
  .ofPairs [("products", Document.strs f.products), ("include_archived", .bool f.includeArchived),
    ("time", optDoc f.time rangeDocOf), ("bounds", optDoc f.bounds bboxDoc)]

def planDoc (plan : SearchPlan) : List (String × Document) :=
  [("products", Document.strs (plan.products.map (·.name))), ("is_empty", .bool plan.isEmpty),
   ("predicates", .arr (plan.predicates.map predicateDoc)),
   ("prefilter", candidateFilterDoc plan.prefilter)]

/-- `search_plan`: a search planned against the request's products, and
optionally checked against datasets. -/
def searchPlanOp (req : Document) : Step Document := do
  let ts ← metadataTypesArg req
  let ps ← productsArg req ts
  let terms ← searchTermsOf (← arg req "terms")
  let plan ← catalog (SearchPlan.new terms ps)
  match ← listArg? req "datasets" with
  | none => return .ofPairs (planDoc plan)
  | some _ =>
    let ds ← datasetsArg req ps
    let hits := ds.filter plan.accepts
    return .ofPairs (planDoc plan ++ [("matches", .arr (ds.map fun d => .bool (plan.accepts d))),
      ("finished", .arr ((plan.finish hits).map fun d => uuidDoc d.id))])

/-- A search field value: `{text}`, `{number}`, `{time}`, `{number_range}`,
`{time_range}` or `{spatial}`. -/
def fieldValueOf (d : Document) : Step FieldValue := do
  let instant := fun (v : Document) => do
    match Instant.parse (← str v) with
    | .ok t => pure t
    | .error e => throw (badInput e.message)
  if let some t := arg? d "text" then return .text (← str t)
  if let some n := arg? d "number" then return .number (← float n)
  if let some t := arg? d "time" then return .time (← instant t)
  if let some r := arg? d "number_range" then
    match ← floats r with
    | [lo, hi] => return .numberRange lo hi
    | _ => throw (badInput "number_range needs two numbers")
  if let some r := arg? d "time_range" then
    match ← list r with
    | [a, b] => return .timeRange (TimeRange.new (← instant a) (← instant b))
    | _ => throw (badInput "time_range needs two times")
  if let some g := arg? d "spatial" then return .spatial (← geometryArg g)
  throw (badInput "unknown field value")

/-- `predicate`: whether each value satisfies a constraint on a field of the
given type. -/
def predicateOp (req : Document) : Step Document := do
  let ft ← match FieldType.decoder (← arg req "field_type") with
    | .ok t => pure t
    | .error e => throw (badInput e.message)
  let p : Predicate := ⟨"", ft, ← termOf (← arg req "term")⟩
  let vs ← (← listArg req "values").mapM fieldValueOf
  return .arr (vs.map fun v => .bool (p.evaluate v))

end Api
end Geocube
