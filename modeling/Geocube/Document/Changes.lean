import Geocube.Document.Path
import Geocube.Document.Writer

/-!
Differences between two versions of a document.

Mappings are compared key by key: a key of the old version that the new one
lacks is a removal, a key only the new one has is an addition, and a key both
have is compared further. Any other pair of values that differ, lists included,
is one change at its path. Removals and changes come in the old version's key
order, then additions in the new version's key order.

An update report splits the changes into those that may be applied freely and
those that need an explicit unsafe update.
-/

namespace Geocube
namespace Document

/-- One differing value: its path, and the value before and after; `none` where
the key is absent. -/
structure Change where
  path : List String
  before : Option Document
  after : Option Document

namespace Change

/-- The same change, one key further down. -/
def within (k : String) (c : Change) : Change := { c with path := k :: c.path }

/-- Whether the change lies under a path prefix. -/
def isUnder (c : Change) (pre : List String) : Bool := pre.isPrefixOf c.path

def isAddition (c : Change) : Bool := c.before.isNone && c.after.isSome

/-- A value as compact JSON, or `<missing>`. -/
def side (v : Option Document) : String :=
  match v with
  | some d => d.compact
  | none => "<missing>"

/-- `path: before -> after`. -/
def text (c : Change) : String :=
  Path.text ⟨c.path⟩ ++ ": " ++ side c.before ++ " -> " ++ side c.after

end Change

mutual

/-- The changes that turn one document into another. -/
def diff : Document → Document → List Change
  | .obj xs, .obj ys =>
    diffFields ys xs ++
      (ys.filter (fun (k, _) => (xs.lookup k).isNone)).map (fun (k, y) => ⟨[k], none, some y⟩)
  | x, y => if same x y then [] else [⟨[], some x, some y⟩]

/-- The changes of the old entries against the new mapping's entries. -/
def diffFields (ys : List (String × Document)) : List (String × Document) → List Change
  | [] => []
  | (k, x) :: xs =>
    (match ys.lookup k with
      | some y => (diff x y).map (Change.within k)
      | none => [⟨[k], some x, none⟩]) ++ diffFields ys xs

end

/-- Changes split into the safe ones and those that are risky and need an explicit unsafe update. -/
structure UpdateReport where
  safe : List Change
  risky : List Change

namespace UpdateReport

/-- Split changes by a test of safety, each part in the order given. -/
def classify (cs : List Change) (isSafe : Change → Bool) : UpdateReport :=
  ⟨cs.filter isSafe, cs.filter (fun c => !isSafe c)⟩

def isEmpty (r : UpdateReport) : Bool := r.safe.isEmpty && r.risky.isEmpty

def isSafe (r : UpdateReport) : Bool := r.risky.isEmpty

/-- The risky changes as text, separated by semicolons. -/
def describeRisky (r : UpdateReport) : String := "; ".intercalate (r.risky.map Change.text)

end UpdateReport

end Document
end Geocube
