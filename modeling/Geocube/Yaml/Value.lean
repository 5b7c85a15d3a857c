import Geocube.Yaml.Event
import Geocube.Document.Basic
import Geocube.Decimal.Read
import Geocube.Text.Quoted

/-!
Loading YAML documents as JSON values.

The events of each document are collected, with anchors numbered so aliases
can refer back to them, and then read as a JSON value:

* A plain scalar is null (empty, `~`, `null`, `Null`, `NULL`), a boolean
  (`true`, `True`, `TRUE` and the same for false), an integer (decimal, or
  `0x`, `0o`, `0b` with an optional sign), a float (decimal notation, or
  `.inf`, `-.inf`, `.nan`, which have no JSON value and become null), and
  otherwise a string. Digits with a leading zero, such as `007`, stay text.
  Words such as `yes` and `no` are text.
* Quoted and block scalars are strings.
* The standard tags `!!bool`, `!!int`, `!!float` and `!!null` demand their
  type, other standard tags give strings, and local tags (`!name`) are not
  JSON values.
* Keys must be scalars, read as their text; a later entry with the same key
  replaces an earlier one. Collections may nest 128 deep.

Errors point at the node that caused them, with its path from the root.
-/

namespace Geocube
namespace Yaml

/-- The node events of a loaded document. -/
inductive Item where
  | scalar (text : String) (style : ScalarStyle) (tag : Option String)
  /-- A reference to the node of an anchor, by the anchor's number. -/
  | alias (id : Nat)
  | sequenceStart (tag : Option String)
  | sequenceEnd
  | mappingStart (tag : Option String)
  | mappingEnd
  /-- The stream holds no document at all. -/
  | void
  deriving Inhabited

/-- Where a node sits below the root. -/
inductive Path where
  | root
  | seq (parent : Path) (index : Nat)
  | map (parent : Path) (key : String)
  | alias (parent : Path)
  | unknown (parent : Path)
  deriving Inhabited

/-- `.` for the root, `parent.key` under a mapping, `parent[i]` in a
sequence. -/
def Path.text : Path → String
  | .root => "."
  | .seq p i => Path.text p ++ "[" ++ toString i ++ "]"
  | .map p k => (match p with | .root => "" | _ => Path.text p ++ ".") ++ k
  | .alias p => Path.text p
  | .unknown p => (match p with | .root => "" | _ => Path.text p ++ ".") ++ "?"

/-- Why a text does not load. -/
inductive LoadError where
  | malformed (e : SyntaxError)
  | unknownAnchor (mark : Mark)
  /-- A node whose value cannot be read as asked. -/
  | invalid (message : String) (mark : Mark) (path : Path)
  | recursionLimit (mark : Mark)
  | repetitionLimit
  | endOfStream
  | moreThanOneDocument
  deriving Inhabited

def LoadError.message : LoadError → String
  | .malformed e => e.message
  | .unknownAnchor m => "unknown anchor" ++ (if m.isStart then "" else " at " ++ m.text)
  | .invalid msg m p =>
    let pt := p.text
    (if pt == "." then "" else pt ++ ": ") ++ msg ++ (if m.isStart then "" else " at " ++ m.text)
  | .recursionLimit m => "recursion limit exceeded" ++ (if m.isStart then "" else " at " ++ m.text)
  | .repetitionLimit => "repetition limit exceeded"
  | .endOfStream => "EOF while parsing a value"
  | .moreThanOneDocument => "deserializing from YAML containing more than one document is not supported"

/-- One document's node events, and the error that cut it short, if any. -/
structure Part where
  items : Array (Item × Mark) := #[]
  error : Option LoadError := none
  /-- The item each anchor number refers to. -/
  targets : List (Nat × Nat) := []
  deriving Inhabited

/-- Reads a stream document by document. -/
structure PartReader where
  /-- None once the stream has ended. -/
  parser : Option Parser
  /-- How many documents have been read. -/
  count : Nat := 0
  deriving Inhabited

/-- Characters a stream may not contain make it unreadable from the start:
the first one is reported by its byte offset. -/
def unprintable? (text : String) : Option SyntaxError :=
  let rec go (offset : Nat) : List Char → Option SyntaxError
    | [] => none
    | c :: rest =>
      if offset ≥ 16384 then none
      else if isPrintable c then go (offset + c.utf8Size) rest
      else some { problem := "control characters are not allowed", offset }
  match text.toList with
  | c :: rest => if c == byteOrderMark then go 3 rest else go 0 (c :: rest)
  | [] => none

namespace PartReader

def start (text : String) : PartReader :=
  let body := match text.toList with
    | c :: rest => if c == byteOrderMark then String.ofList rest else text
    | [] => text
  { parser := some (Parser.start body) }

/-- Register the anchor of a node about to be added. -/
def anchorNode (anchors : List (String × Nat)) (part : Part) (anchor : Option String) :
    List (String × Nat) × Part :=
  match anchor with
  | none => (anchors, part)
  | some a =>
    let id := anchors.length
    let anchors := (anchors.filter (·.1 != a)) ++ [(a, id)]
    (anchors, { part with targets := (part.targets.filter (·.1 != id)) ++ [(id, part.items.size)] })

/-- The next document of the stream; an empty stream has one empty document. -/
def next (l : PartReader) : Option Part × PartReader :=
  match l.parser with
  | none => (none, l)
  | some p0 =>
    let first := l.count == 0
    let l := { l with count := l.count + 1 }
    let rec go (fuel : Nat) (p : Parser) (anchors : List (String × Nat)) (part : Part) :
        Option Part × PartReader :=
      match fuel with
      | 0 => (some { part with error := some .endOfStream }, { l with parser := none })
      | fuel + 1 =>
        match Parser.next.run p with
        | .error e => (some { part with error := some (.malformed e) }, { l with parser := some p })
        | .ok (none, _) => (none, { l with parser := none })
        | .ok (some ev, p') =>
          let m := ev.start
          match ev.kind with
          | .streamStart | .documentStart => go fuel p' anchors part
          | .streamEnd =>
            let l' := { l with parser := none }
            if first then
              let part := if part.items.isEmpty then { part with items := part.items.push (.void, m) } else part
              (some part, l')
            else (none, l')
          | .documentEnd => (some part, { l with parser := some p' })
          | .alias name =>
            match anchors.lookup name with
            | some id => go fuel p' anchors { part with items := part.items.push (.alias id, m) }
            | none => (some { part with error := some (.unknownAnchor m) }, { l with parser := some p' })
          | .scalar anchor tag text style =>
            let (anchors, part) := anchorNode anchors part anchor
            go fuel p' anchors { part with items := part.items.push (.scalar text style tag, m) }
          | .sequenceStart anchor tag =>
            let (anchors, part) := anchorNode anchors part anchor
            go fuel p' anchors { part with items := part.items.push (.sequenceStart tag, m) }
          | .mappingStart anchor tag =>
            let (anchors, part) := anchorNode anchors part anchor
            go fuel p' anchors { part with items := part.items.push (.mappingStart tag, m) }
          | .sequenceEnd => go fuel p' anchors { part with items := part.items.push (.sequenceEnd, m) }
          | .mappingEnd => go fuel p' anchors { part with items := part.items.push (.mappingEnd, m) }
    go (4 * p0.scanner.text.size + 16) p0 [] {}

end PartReader

/-! ## Scalars -/

def nullWord (s : String) : Bool := s == "null" || s == "Null" || s == "NULL" || s == "~"

def boolWord? (s : String) : Option Bool :=
  if s == "true" || s == "True" || s == "TRUE" then some true
  else if s == "false" || s == "False" || s == "FALSE" then some false
  else none

/-- Digits with a leading zero, which are text rather than a number. -/
def zeroPadded (s : String) : Bool :=
  let cs := match s.toList with
    | '-' :: r | '+' :: r => r
    | r => r
  cs.length > 1 && cs.head? == some '0' && cs.tail.all Char.isDigit

/-- The value of digits in a radix (2, 8, 10 or 16), all of them valid and
at least one. -/
def radixValue? (radix : Nat) (cs : List Char) : Option Nat :=
  if cs.isEmpty then none
  else cs.foldl (fun acc c => acc.bind fun a =>
    (hexDigit? c).bind fun d => if d < radix then some (a * radix + d) else none) (some 0)

/-- An unsigned number in a radix with an optional `+`. -/
def unsignedRadix? (radix : Nat) (s : List Char) : Option Nat :=
  match s with
  | '+' :: r => radixValue? radix r
  | r => radixValue? radix r

/-- A signed number in a radix with an optional sign. -/
def signedRadix? (radix : Nat) (s : List Char) : Option Int :=
  match s with
  | '-' :: r => (radixValue? radix r).map fun n => -(n : Int)
  | '+' :: r => (radixValue? radix r).map fun n => (n : Int)
  | r => (radixValue? radix r).map fun n => (n : Int)

/-- Radix prefixes and their radixes. -/
def radixPrefixes : List (List Char × Nat) := [(['0', 'x'], 16), (['0', 'o'], 8), (['0', 'b'], 2)]

def isSign (c : Char) : Bool := c == '+' || c == '-'

/-- A non-negative integer: `+`, then digits or a radix prefix and digits. -/
def unsignedInt? (s : String) : Option Nat :=
  let cs := s.toList
  let un := match cs with
    | '+' :: r => r
    | r => r
  let prefixed := radixPrefixes.findSome? fun (pre, radix) =>
    if un.take 2 == pre then
      let rest := un.drop 2
      if rest.head?.any isSign then none else unsignedRadix? radix rest
    else none
  match prefixed with
  | some n => some n
  | none =>
    if un.head?.any isSign then none
    else if zeroPadded s then none
    else radixValue? 10 un

/-- A negative integer: `-`, then digits or a radix prefix and digits. -/
def negativeInt? (s : String) : Option Int :=
  let cs := s.toList
  let prefixed := radixPrefixes.findSome? fun (pre, radix) =>
    if cs.take 3 == '-' :: pre then signedRadix? radix ('-' :: cs.drop 3) else none
  match prefixed with
  | some n => some n
  | none => if zeroPadded s then none else signedRadix? 10 cs

/-- A float: `.inf`, `-.inf`, `.nan` in three spellings each, or decimal
notation with a finite value. -/
def float? (s : String) : Option Float :=
  let (ok, un) := match s.toList with
    | '+' :: r => (!(r.head?.any isSign), String.ofList r)
    | _ => (true, s)
  if !ok then none
  else if un == ".inf" || un == ".Inf" || un == ".INF" then some Binary64.inf
  else if s == "-.inf" || s == "-.Inf" || s == "-.INF" then some (-Binary64.inf)
  else if s == ".nan" || s == ".NaN" || s == ".NAN" then some Binary64.nan
  else match Decimal.readFloat? un with
    | some x => if x.isFinite then some x else none
    | none => none

/-- The largest value of a 64-bit signed integer's magnitude when negative. -/
def i64MinMagnitude : Nat := pow2 63

/-- A JSON number from a float: JSON has no infinities or NaN. -/
def floatDoc (x : Float) : Document := if x.isFinite then .float x else .null

/-- An integer scalar, if it is one: within 64 bits, or an error when beyond. -/
def intDoc? (s : String) : Option (Except String Document) :=
  match unsignedInt? s with
  | some n => some (if n ≤ Decimal.u64Max then .ok (.int n) else .error "number out of range")
  | none =>
    match negativeInt? s with
    | some i =>
      if i ≥ -(i64MinMagnitude : Int) then some (.ok (.int i))
      else some (.error "number out of range")
    | none => none

/-- A plain scalar with no tag. -/
def untagged (s : String) : Except String Document :=
  if s.isEmpty || nullWord s then .ok .null
  else match boolWord? s with
    | some b => .ok (.bool b)
    | none =>
      match intDoc? s with
      | some r => r
      | none =>
        if !zeroPadded s then
          match float? s with
          | some x => .ok (floatDoc x)
          | none => .ok (.str s)
        else .ok (.str s)

def standardTag (name : String) : String := "tag:yaml.org,2002:" ++ name

/-- A scalar's value, given its style and resolved tag. -/
def scalarDoc (text : String) (style : ScalarStyle) (tag : Option String) : Except String Document :=
  let refuse := fun (what : String) =>
    Except.error ("invalid value: string " ++ Text.quoted text ++ ", expected " ++ what)
  match tag with
  | some t =>
    if t == standardTag "bool" then
      match boolWord? text with
      | some b => .ok (.bool b)
      | none => refuse "a boolean"
    else if t == standardTag "int" then
      match intDoc? text with
      | some r => r
      | none => refuse "an integer"
    else if t == standardTag "float" then
      match float? text with
      | some x => .ok (floatDoc x)
      | none => refuse "a float"
    else if t == standardTag "null" then
      if nullWord text then .ok .null else refuse "null"
    else if t.startsWith "!" && style == .plain then untagged text
    else .ok (.str text)
  | none => if style == .plain then untagged text else .ok (.str text)

/-- Tags naming a type of their own, which JSON values do not have. -/
def isLocalTag (tag : Option String) : Bool := tag.any (·.startsWith "!")

/-! ## Nodes -/

/-- Counts alias jumps, which are limited to a hundred per item. -/
abbrev DecodeM := StateT Nat (Except LoadError)

/-- Follow an alias to the item of its anchor. -/
def jump (part : Part) (id : Nat) : DecodeM Nat := do
  let n ← get
  if n + 1 > part.items.size * 100 then throw .repetitionLimit
  set (n + 1)
  return (part.targets.lookup id).getD 0

/-- What a collection start is called in messages. -/
def itemName : Item → String
  | .sequenceStart _ => "sequence"
  | .mappingStart _ => "map"
  | _ => "unit value"

/-- The item at a position, or the error that ended the document early. -/
def itemAt (part : Part) (pos : Nat) : DecodeM (Item × Mark) :=
  match part.items[pos]? with
  | some x => pure x
  | none => throw (part.error.getD .endOfStream)

/-- A mapping key: a scalar's text, through aliases. Also the key a value's
path is named by (none for a key reached through an alias). -/
def keyAt (part : Part) (expected : String) : Nat → Nat → Path → DecodeM (String × Nat)
  | 0, _, _ => throw .repetitionLimit
  | fuel + 1, pos, path => do
    let (item, mark) ← itemAt part pos
    match item with
    | .scalar text _ _ => return (text, pos + 1)
    | .alias id =>
      let target ← jump part id
      let (k, _) ← keyAt part expected fuel target (.alias path)
      return (k, pos + 1)
    | other =>
      throw (.invalid ("invalid type: " ++ itemName other ++ ", expected " ++ expected) mark path)

/-- The value of the node at a position and the position after it. `depth`
is how many more collections may open. -/
def valueAt (part : Part) : Nat → Nat → Path → Nat → DecodeM (Document × Nat)
  | 0, pos, _, _ => do
    let (_, mark) ← itemAt part pos
    throw (.recursionLimit mark)
  | fuel + 1, pos, path, depth => do
    let (item, mark) ← itemAt part pos
    let notJson := LoadError.invalid "invalid type: enum, expected any valid JSON value" mark path
    match item with
    | .void => return (.null, pos + 1)
    | .alias id =>
      let target ← jump part id
      let (v, _) ← valueAt part fuel target (.alias path) depth
      return (v, pos + 1)
    | .scalar text style tag =>
      if isLocalTag tag then throw notJson
      match scalarDoc text style tag with
      | .ok v => return (v, pos + 1)
      | .error m => throw (.invalid m mark path)
    | .sequenceStart tag =>
      if isLocalTag tag then throw notJson
      if depth == 0 then throw (.recursionLimit mark)
      let mut at_ := pos + 1
      let mut items : Array Document := #[]
      for _ in [0:part.items.size + 1] do
        let (next, _) ← itemAt part at_
        if next matches .sequenceEnd then break
        let (v, after) ← valueAt part fuel at_ (.seq path items.size) (depth - 1)
        items := items.push v
        at_ := after
      return (.arr items.toList, at_ + 1)
    | .mappingStart tag =>
      if isLocalTag tag then throw notJson
      if depth == 0 then throw (.recursionLimit mark)
      let mut at_ := pos + 1
      let mut fields : List (String × Document) := []
      let mut first := true
      for _ in [0:part.items.size + 1] do
        let (next, _) ← itemAt part at_
        if next matches .mappingEnd then break
        let named := match next with
          | .scalar text _ _ => some text
          | _ => none
        let (k, afterKey) ← keyAt part (if first then "a string key" else "a string") fuel at_ path
        first := false
        let valuePath := match named with
          | some t => Path.map path t
          | none => Path.unknown path
        let (v, after) ← valueAt part fuel afterKey valuePath (depth - 1)
        fields := Document.setField k v fields
        at_ := after
      return (.obj fields, at_ + 1)
    | .sequenceEnd | .mappingEnd => throw .endOfStream

/-- The value of a whole document; a document cut short by an error fails
with that error once its value is read. -/
def Part.value (part : Part) : Except LoadError Document := do
  let (v, _) ← (valueAt part (2 * part.items.size + 300) 0 .root 128).run' 0
  match part.error with
  | some e => throw e
  | none => return v

/-- Every document of a stream, with its position in the stream; empty
documents are left out. The first failing document fails the whole stream. -/
def documents (text : String) : Except String (List (Nat × Document)) :=
  if let some e := unprintable? text then .error e.message
  else
    let rec go (fuel : Nat) (l : PartReader) (i : Nat) (acc : List (Nat × Document)) :
        Except String (List (Nat × Document)) :=
      match fuel with
      | 0 => .ok acc.reverse
      | fuel + 1 =>
        match l.next with
        | (none, _) => .ok acc.reverse
        | (some part, l') =>
          match part.value with
          | .error e => .error e.message
          | .ok .null => go fuel l' (i + 1) acc
          | .ok v => go fuel l' (i + 1) ((i, v) :: acc)
    go (text.length + 2) (PartReader.start text) 0 []

/-- The one document of a text; an empty text is null, and a second document
is an error. -/
def document (text : String) : Except String Document :=
  if let some e := unprintable? text then .error e.message
  else
    match (PartReader.start text).next with
    | (none, _) => .error LoadError.endOfStream.message
    | (some part, l) =>
      match part.value with
      | .error e => .error e.message
      | .ok v =>
        match l.next with
        | (none, _) => .ok v
        | (some _, _) => .error LoadError.moreThanOneDocument.message

end Yaml
end Geocube
