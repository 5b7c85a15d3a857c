import Geocube.Yaml.Token

/-!
Reading YAML tokens into events.

The parser checks the token stream against the YAML grammar and reports it
as events: the stream, its documents, and within each document the start and
end of every collection, scalars and aliases. It is a pushdown machine: a
state says what may come next, and a stack holds where to return once a
nested node is complete. Missing nodes (a key without a value, an entry
without content) come out as empty plain scalars.

Tags are resolved here: `!!suffix` under the standard prefix, `!suffix` as a
local tag, handles declared by `%TAG` under their prefix; an undeclared handle
is an error.
-/

namespace Geocube
namespace Yaml

/-- Events of a YAML stream. -/
inductive EventKind where
  | streamStart
  | streamEnd
  | documentStart
  | documentEnd
  | alias (name : String)
  | scalar (anchor tag : Option String) (text : String) (style : ScalarStyle)
  | sequenceStart (anchor tag : Option String)
  | sequenceEnd
  | mappingStart (anchor tag : Option String)
  | mappingEnd
  deriving Inhabited, Repr

structure Event where
  kind : EventKind
  start : Mark
  deriving Inhabited

/-- What the parser expects next. -/
inductive ParseState where
  | streamStart
  | implicitDocumentStart
  | documentStart
  | documentContent
  | documentEnd
  | blockNode
  | flowNode
  | blockSequenceFirstEntry
  | blockSequenceEntry
  | indentlessSequenceEntry
  | blockMappingFirstKey
  | blockMappingKey
  | blockMappingValue
  | flowSequenceFirstEntry
  | flowSequenceEntry
  | flowSequenceEntryMappingKey
  | flowSequenceEntryMappingValue
  | flowSequenceEntryMappingEnd
  | flowMappingFirstKey
  | flowMappingKey
  | flowMappingValue
  | flowMappingEmptyValue
  | finished
  deriving Inhabited, DecidableEq

structure Parser where
  scanner : Scanner
  state : ParseState := .streamStart
  /-- States to return to, innermost first. -/
  states : List ParseState := []
  /-- Where each open collection started, innermost first. -/
  marks : List Mark := []
  /-- Tag handles and their prefixes for the current document. -/
  tagDirectives : List (String × String) := []
  deriving Inhabited

abbrev ParseM := StateT Parser (Except SyntaxError)

/-- The handles every document knows. -/
def defaultTagDirectives : List (String × String) := [("!", "!"), ("!!", "tag:yaml.org,2002:")]

namespace Parser

/-- A parser at the start of a text. -/
def start (text : String) : Parser := { scanner := Scanner.start text }

def scan {α : Type} (m : ScanM α) : ParseM α := do
  let p ← get
  match StateT.run m p.scanner with
  | .ok (a, s) =>
    set { p with scanner := s }
    return a
  | .error e => throw e

def peek : ParseM Token := scan Scanner.peek

def take : ParseM Unit := scan Scanner.take

def parseError {α : Type} (problem : String) (mark : Mark) : ParseM α :=
  throw { problem, mark }

def contextError {α : Type} (context : String) (contextMark : Mark) (problem : String) (mark : Mark) :
    ParseM α :=
  throw { problem, mark, context := some (context, contextMark) }

def push (st : ParseState) : ParseM Unit := modify fun p => { p with states := st :: p.states }

/-- Return to the state below. -/
def pop : ParseM Unit := modify fun p =>
  { p with state := p.states.headD .finished, states := p.states.tail }

def pushMark (m : Mark) : ParseM Unit := modify fun p => { p with marks := m :: p.marks }

def popMark : ParseM Mark := do
  let p ← get
  set { p with marks := p.marks.tail }
  return p.marks.headD {}

def goto (st : ParseState) : ParseM Unit := modify fun p => { p with state := st }

def emptyScalar (m : Mark) : Event := ⟨.scalar none none "" .plain, m⟩

/-- Directives before a document; the default handles are added after. -/
def processDirectives : ParseM Unit := do
  let mut version := false
  let mut directives : List (String × String) := []
  for _ in [0:(← get).scanner.bound] do
    let t ← peek
    match t.kind with
    | .versionDirective major minor =>
      if version then parseError "found duplicate %YAML directive" t.start
      if major != 1 || (minor != 1 && minor != 2) then
        parseError "found incompatible YAML document" t.start
      version := true
    | .tagDirective handle pfx =>
      if directives.any (·.1 == handle) then parseError "found duplicate %TAG directive" t.start
      directives := directives ++ [(handle, pfx)]
    | _ => break
    take
  let extra := defaultTagDirectives.filter fun (h, _) => !directives.any (·.1 == h)
  modify fun p => { p with tagDirectives := directives ++ extra }

def isDirective : TokenKind → Bool
  | .versionDirective .. | .tagDirective .. => true
  | _ => false

def documentStart (implicit : Bool) : ParseM Event := do
  let mut t ← peek
  if !implicit then
    for _ in [0:(← get).scanner.bound] do
      if t.kind matches .documentEnd then
        take
        t ← peek
      else break
  match t.kind with
  | .streamEnd =>
    goto .finished
    take
    return ⟨.streamEnd, t.start⟩
  | .documentStart =>
    processDirectives
    push .documentEnd
    goto .documentContent
    take
    return ⟨.documentStart, t.start⟩
  | k =>
    if implicit && !isDirective k then
      processDirectives
      push .documentEnd
      goto .blockNode
      return ⟨.documentStart, t.start⟩
    else
      processDirectives
      let d ← peek
      if !(d.kind matches .documentStart) then
        parseError "did not find expected <document start>" d.start
      push .documentEnd
      goto .documentContent
      take
      return ⟨.documentStart, t.start⟩

def documentEnd : ParseM Event := do
  let t ← peek
  if t.kind matches .documentEnd then take
  modify fun p => { p with tagDirectives := [] }
  goto .documentStart
  return ⟨.documentEnd, t.start⟩

/-- A node: an alias, or content with an optional anchor and tag. In block
context an indentless sequence may stand as a mapping value. -/
def node (block indentlessSequence : Bool) : ParseM Event := do
  let t ← peek
  if let .alias name := t.kind then
    pop
    take
    return ⟨.alias name, t.start⟩
  let startMark := t.start
  let mut anchor : Option String := none
  let mut tagParts : Option (String × String) := none
  let mut tagMark := t.start
  let mut t := t
  match t.kind with
  | .anchor a =>
    anchor := some a
    take
    t ← peek
    if let .tag h s := t.kind then
      tagParts := some (h, s)
      tagMark := t.start
      take
      t ← peek
  | .tag h s =>
    tagParts := some (h, s)
    tagMark := t.start
    take
    t ← peek
    if let .anchor a := t.kind then
      anchor := some a
      take
      t ← peek
  | _ => pure ()
  let mut tag : Option String := none
  if let some (h, s) := tagParts then
    if h.isEmpty then tag := some s
    else
      match (← get).tagDirectives.find? (·.1 == h) with
      | some (_, pfx) => tag := some (pfx ++ s)
      | none => contextError "while parsing a node" startMark "found undefined tag handle" tagMark
  match t.kind with
  | .blockEntry =>
    if indentlessSequence then
      goto .indentlessSequenceEntry
      return ⟨.sequenceStart anchor tag, startMark⟩
  | .scalar text style =>
    pop
    take
    return ⟨.scalar anchor tag text style, startMark⟩
  | .flowSequenceStart =>
    goto .flowSequenceFirstEntry
    return ⟨.sequenceStart anchor tag, startMark⟩
  | .flowMappingStart =>
    goto .flowMappingFirstKey
    return ⟨.mappingStart anchor tag, startMark⟩
  | .blockSequenceStart =>
    if block then
      goto .blockSequenceFirstEntry
      return ⟨.sequenceStart anchor tag, startMark⟩
  | .blockMappingStart =>
    if block then
      goto .blockMappingFirstKey
      return ⟨.mappingStart anchor tag, startMark⟩
  | _ => pure ()
  if anchor.isSome || tag.isSome then
    pop
    return ⟨.scalar anchor tag "" .plain, startMark⟩
  contextError (if block then "while parsing a block node" else "while parsing a flow node") startMark
    "did not find expected node content" t.start

def blockSequenceEntry (first : Bool) : ParseM Event := do
  if first then
    pushMark (← peek).start
    take
  let t ← peek
  match t.kind with
  | .blockEntry =>
    take
    let t' ← peek
    match t'.kind with
    | .blockEntry | .blockEnd =>
      goto .blockSequenceEntry
      return emptyScalar t.stop
    | _ =>
      push .blockSequenceEntry
      node true false
  | .blockEnd =>
    pop
    let _ ← popMark
    take
    return ⟨.sequenceEnd, t.start⟩
  | _ =>
    contextError "while parsing a block collection" (← popMark) "did not find expected '-' indicator" t.start

def indentlessSequenceEntry : ParseM Event := do
  let t ← peek
  match t.kind with
  | .blockEntry =>
    take
    let t' ← peek
    match t'.kind with
    | .blockEntry | .key | .value | .blockEnd =>
      goto .indentlessSequenceEntry
      return emptyScalar t.stop
    | _ =>
      push .indentlessSequenceEntry
      node true false
  | _ =>
    pop
    return ⟨.sequenceEnd, t.start⟩

def blockMappingKey (first : Bool) : ParseM Event := do
  if first then
    pushMark (← peek).start
    take
  let t ← peek
  match t.kind with
  | .key =>
    take
    let t' ← peek
    match t'.kind with
    | .key | .value | .blockEnd =>
      goto .blockMappingValue
      return emptyScalar t.stop
    | _ =>
      push .blockMappingValue
      node true true
  | .blockEnd =>
    pop
    let _ ← popMark
    take
    return ⟨.mappingEnd, t.start⟩
  | _ =>
    contextError "while parsing a block mapping" (← popMark) "did not find expected key" t.start

def blockMappingValue : ParseM Event := do
  let t ← peek
  match t.kind with
  | .value =>
    take
    let t' ← peek
    match t'.kind with
    | .key | .value | .blockEnd =>
      goto .blockMappingKey
      return emptyScalar t.stop
    | _ =>
      push .blockMappingKey
      node true true
  | _ =>
    goto .blockMappingKey
    return emptyScalar t.start

def flowSequenceEntry (first : Bool) : ParseM Event := do
  if first then
    pushMark (← peek).start
    take
  let mut t ← peek
  if !(t.kind matches .flowSequenceEnd) then
    if !first then
      if t.kind matches .flowEntry then
        take
        t ← peek
      else
        contextError "while parsing a flow sequence" (← popMark) "did not find expected ',' or ']'" t.start
    if t.kind matches .key then
      goto .flowSequenceEntryMappingKey
      take
      return ⟨.mappingStart none none, t.start⟩
    else if !(t.kind matches .flowSequenceEnd) then
      push .flowSequenceEntry
      return ← node false false
  pop
  let _ ← popMark
  take
  return ⟨.sequenceEnd, t.start⟩

def flowSequenceEntryMappingKey : ParseM Event := do
  let t ← peek
  match t.kind with
  | .value | .flowEntry | .flowSequenceEnd =>
    goto .flowSequenceEntryMappingValue
    return emptyScalar t.start
  | _ =>
    push .flowSequenceEntryMappingValue
    node false false

def flowSequenceEntryMappingValue : ParseM Event := do
  let mut t ← peek
  if t.kind matches .value then
    take
    t ← peek
    if !(t.kind matches .flowEntry) && !(t.kind matches .flowSequenceEnd) then
      push .flowSequenceEntryMappingEnd
      return ← node false false
  goto .flowSequenceEntryMappingEnd
  return emptyScalar t.start

def flowSequenceEntryMappingEnd : ParseM Event := do
  let t ← peek
  goto .flowSequenceEntry
  return ⟨.mappingEnd, t.start⟩

def flowMappingKey (first : Bool) : ParseM Event := do
  if first then
    pushMark (← peek).start
    take
  let mut t ← peek
  if !(t.kind matches .flowMappingEnd) then
    if !first then
      if t.kind matches .flowEntry then
        take
        t ← peek
      else
        contextError "while parsing a flow mapping" (← popMark) "did not find expected ',' or '\x7d'" t.start
    if t.kind matches .key then
      take
      t ← peek
      match t.kind with
      | .value | .flowEntry | .flowMappingEnd =>
        goto .flowMappingValue
        return emptyScalar t.start
      | _ =>
        push .flowMappingValue
        return ← node false false
    else if !(t.kind matches .flowMappingEnd) then
      push .flowMappingEmptyValue
      return ← node false false
  pop
  let _ ← popMark
  take
  return ⟨.mappingEnd, t.start⟩

def flowMappingValue (empty : Bool) : ParseM Event := do
  let mut t ← peek
  if empty then
    goto .flowMappingKey
    return emptyScalar t.start
  if t.kind matches .value then
    take
    t ← peek
    if !(t.kind matches .flowEntry) && !(t.kind matches .flowMappingEnd) then
      push .flowMappingKey
      return ← node false false
  goto .flowMappingKey
  return emptyScalar t.start

/-- The next event; none once the stream has ended. -/
def next : ParseM (Option Event) := do
  match (← get).state with
  | .streamStart =>
    let t ← peek
    if !(t.kind matches .streamStart) then parseError "did not find expected <stream-start>" t.start
    goto .implicitDocumentStart
    take
    return some ⟨.streamStart, t.start⟩
  | .implicitDocumentStart => some <$> documentStart true
  | .documentStart => some <$> documentStart false
  | .documentContent =>
    let t ← peek
    match t.kind with
    | .versionDirective .. | .tagDirective .. | .documentStart | .documentEnd | .streamEnd =>
      pop
      return some (emptyScalar t.start)
    | _ => some <$> node true false
  | .documentEnd => some <$> documentEnd
  | .blockNode => some <$> node true false
  | .flowNode => some <$> node false false
  | .blockSequenceFirstEntry => some <$> blockSequenceEntry true
  | .blockSequenceEntry => some <$> blockSequenceEntry false
  | .indentlessSequenceEntry => some <$> indentlessSequenceEntry
  | .blockMappingFirstKey => some <$> blockMappingKey true
  | .blockMappingKey => some <$> blockMappingKey false
  | .blockMappingValue => some <$> blockMappingValue
  | .flowSequenceFirstEntry => some <$> flowSequenceEntry true
  | .flowSequenceEntry => some <$> flowSequenceEntry false
  | .flowSequenceEntryMappingKey => some <$> flowSequenceEntryMappingKey
  | .flowSequenceEntryMappingValue => some <$> flowSequenceEntryMappingValue
  | .flowSequenceEntryMappingEnd => some <$> flowSequenceEntryMappingEnd
  | .flowMappingFirstKey => some <$> flowMappingKey true
  | .flowMappingKey => some <$> flowMappingKey false
  | .flowMappingValue => some <$> flowMappingValue false
  | .flowMappingEmptyValue => some <$> flowMappingValue true
  | .finished => return none

end Parser
end Yaml
end Geocube
