import Geocube.Api.Request
import Geocube.Document.Changes

/-!
Answers about paths into documents, containment, leaves and differences.
-/

namespace Geocube
namespace Api

/-- An argument taken as a document of its own: absent counts as `null`. -/
def docArg (req : Document) (k : String) : Document := (req.get? k).getD .null

/-- A path: dotted text, or a list of keys. -/
def pathArg (req : Document) : Step Document.Path := do
  match ← arg req "path" with
  | .str s => return Document.Path.dotted s
  | .arr ks => return ⟨← ks.mapM str⟩
  | _ => throw (badInput "expected a path")

/-- `docpath`: what a path selects, and with `value` what writing it gives. -/
def docpathOp (req : Document) : Step Document := do
  let p ← pathArg req
  let doc := docArg req "doc"
  let got := doc.find? p
  let mut fields : List (String × Document) :=
    [("keys", Document.strs p.keys), ("display", .str p.text), ("is_empty", .bool p.isEmpty),
     ("found", .bool got.isSome), ("get", got.getD .null)]
  if let some v := req.get? "value" then
    let (written, ok) := doc.write p.keys v
    fields := fields ++ [("set_ok", .bool ok), ("set_doc", written)]
  return .ofPairs fields

/-- `contains`. -/
def containsOp (req : Document) : Step Document :=
  return .bool ((docArg req "doc").contains (docArg req "template"))

/-- `leaves`. -/
def leavesOp (req : Document) : Step Document :=
  return .arr ((docArg req "doc").leaves.map fun (p, v) => .arr [Document.strs p, v])

/-- A change as `{path, old?, new?, display}`. -/
def changeDoc (c : Document.Change) : Document :=
  let sides := (match c.before with | some v => [("old", v)] | none => []) ++
    (match c.after with | some v => [("new", v)] | none => [])
  .ofPairs ([("path", Document.strs c.path), ("display", .str c.text)] ++ sides)

/-- `diff`. -/
def diffOp (req : Document) : Step Document :=
  return .arr ((Document.diff (docArg req "old") (docArg req "new")).map changeDoc)

end Api
end Geocube
