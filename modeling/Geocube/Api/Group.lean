import Geocube.Api.Dataset
import Geocube.Load.Grouping

/-!
Answers about grouping datasets into cube slices.
-/

namespace Geocube
namespace Api

def groupKeyDoc : GroupKey → Document
  | .time t => .ofPairs [("time", .str t.text)]
  | .date d => .ofPairs [("date", .str d.text)]
  | .text s => .ofPairs [("text", .str s)]
  | .number x => .ofPairs [("number", fl x)]

def orderingText : Ordering → String
  | .lt => "Less"
  | .eq => "Equal"
  | .gt => "Greater"

/-- A grouping: `"solar_day"`, `"time"`, `{field}` or `{base}`, the object forms
optionally with `sort_by`. -/
def groupByOf (d : Document) : Nat → Step GroupBy
  | 0 => .error (badInput "group_by nested too deeply")
  | fuel + 1 =>
    match d with
    | .str "solar_day" => .ok GroupBy.solarDay
    | .str "time" => .ok GroupBy.time
    | .str other => .error (badInput s!"unknown group_by '{other}'")
    | .obj _ => do
      let base ← match arg? d "field", arg? d "base" with
        | some f, _ => pure (GroupBy.field (← str f))
        | none, some b => groupByOf b fuel
        | none, none => throw (badInput "group_by needs field or base")
      match arg? d "sort_by" with
      | some s => return base.withSortKey (← groupByOf s fuel).key
      | none => return base
    | _ => .error (badInput "group_by must be a string or an object")

/-- `group`: the key of each dataset and the groups they form. -/
def groupOp (req : Document) : Step Document := do
  let ts ← metadataTypesArg req
  let ps ← productsArg req ts
  let ds ← datasetsArg req ps
  let g ← match arg? req "group_by" with
    | some d => groupByOf d 32
    | none => pure GroupBy.solarDay
  let groups ← (groupDatasets ds g).mapError loadErrorDoc
  if ← boolArgOr req "compare" false then
    let pairs := groups.zip (groups.drop 1)
    return .ofPairs [("dimension", .str g.dimension), ("groups", .int groups.length),
      ("compare", .arr (pairs.map fun (a, b) =>
        let c := a.key.cmp b.key
        .ofPairs [("eq", .bool (c == .eq)), ("cmp", .str (orderingText c)),
          ("same_first", .bool ((a.datasets.head?.map (·.id)) == (b.datasets.head?.map (·.id))))]))]
  let keys ← ds.mapM fun d => return optDoc (← (g.keyOf d).mapError loadErrorDoc) groupKeyDoc
  return .ofPairs [("dimension", .str g.dimension), ("keys", .arr keys),
    ("groups", .arr (groups.map fun gr =>
      .ofPairs [("key", groupKeyDoc gr.key), ("display", .str gr.key.display),
        ("datasets", .arr (gr.datasets.map fun d => uuidDoc d.id))]))]

end Api
end Geocube
