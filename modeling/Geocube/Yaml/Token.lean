/-!
Reading YAML text into tokens.

The scanner turns characters into the tokens of the YAML grammar: indicators,
scalars, anchors, tags, directives, and the block structure that indentation
implies. Block collections have no closing characters, so the scanner emits
their starts and ends itself from the indentation of each line.

A key without `?` is seen only when its `:` arrives. Its position is kept as
a possible simple key, and when the `:` comes the scanner inserts the key
token, and the start of a block mapping if the key opens one, back at that
position. A possible simple key must end on its line and within 1024 bytes;
a key that has to be one (it starts a line at the mapping's indentation) and
cannot is an error.

Tokens are produced on demand: the parser asks for the next token, and the
scanner reads only as far as it must to be sure of it. Errors are found in
the same order the parser meets them.
-/

namespace Geocube
namespace Yaml

/-- A position in the text: byte offset, line and column (in characters),
all counted from zero. -/
structure Mark where
  index : Nat := 0
  line : Nat := 0
  column : Nat := 0
  deriving Inhabited, BEq, Repr

namespace Mark

/-- Lines and columns as people count them, from one. -/
def text (m : Mark) : String := s!"line {m.line + 1} column {m.column + 1}"

/-- The very start of the text, which messages do not point at. -/
def isStart (m : Mark) : Bool := m.line == 0 && m.column == 0

def samePlace (a b : Mark) : Bool := a.line == b.line && a.column == b.column

end Mark

/-- A malformed stream: what is wrong and where, with what was being read
when it was found. Errors found before any position is known point at a byte
offset instead. -/
structure SyntaxError where
  problem : String
  mark : Mark := {}
  context : Option (String × Mark) := none
  offset : Nat := 0
  deriving Inhabited

/-- `problem at line l column c, context at line l' column c'`, leaving out
positions at the start of the text and a context position equal to the
problem's. -/
def SyntaxError.message (e : SyntaxError) : String :=
  let place :=
    if !e.mark.isStart then " at " ++ e.mark.text
    else if e.offset != 0 then s!" at position {e.offset}"
    else ""
  let context := match e.context with
    | none => ""
    | some (c, m) =>
      ", " ++ c ++ (if !m.isStart && !m.samePlace e.mark then " at " ++ m.text else "")
  e.problem ++ place ++ context

/-- How a scalar was written. -/
inductive ScalarStyle where
  | plain
  | singleQuoted
  | doubleQuoted
  | literal
  | folded
  deriving Inhabited, DecidableEq, Repr

inductive TokenKind where
  | streamStart
  | streamEnd
  | versionDirective (major minor : Nat)
  | tagDirective (handle pfx : String)
  | documentStart
  | documentEnd
  | blockSequenceStart
  | blockMappingStart
  | blockEnd
  | flowSequenceStart
  | flowSequenceEnd
  | flowMappingStart
  | flowMappingEnd
  | blockEntry
  | flowEntry
  | key
  | value
  | alias (name : String)
  | anchor (name : String)
  | tag (handle suffix : String)
  | scalar (text : String) (style : ScalarStyle)
  deriving Inhabited, Repr

structure Token where
  kind : TokenKind
  start : Mark
  stop : Mark
  deriving Inhabited

def nextLine : Char := Char.ofNat 0x85
def lineSeparator : Char := Char.ofNat 0x2028
def paragraphSeparator : Char := Char.ofNat 0x2029
def byteOrderMark : Char := Char.ofNat 0xFEFF
def graveAccent : Char := Char.ofNat 0x60

/-- The character that stands for the end of the text. -/
def endOfText : Char := Char.ofNat 0

def isBreak (c : Char) : Bool :=
  c == '\r' || c == '\n' || c == nextLine || c == lineSeparator || c == paragraphSeparator

def isBlank (c : Char) : Bool := c == ' ' || c == '\t'

def isBreakZ (c : Char) : Bool := isBreak c || c == endOfText

def isBlankZ (c : Char) : Bool := isBlank c || isBreakZ c

/-- Characters of anchors, handles and directive names. -/
def isWordChar (c : Char) : Bool := c.isAlphanum || c == '_' || c == '-'

def hexDigit? (c : Char) : Option Nat :=
  if c.isDigit then some (c.toNat - '0'.toNat)
  else if 'a' ≤ c && c ≤ 'f' then some (c.toNat - 'a'.toNat + 10)
  else if 'A' ≤ c && c ≤ 'F' then some (c.toNat - 'A'.toNat + 10)
  else none

/-- Characters the text may contain: tab, line breaks and printable
characters. -/
def isPrintable (c : Char) : Bool :=
  let n := c.toNat
  n == 0x09 || n == 0x0A || n == 0x0D || (0x20 ≤ n && n ≤ 0x7E) || n == 0x85 ||
    (0xA0 ≤ n && n ≤ 0xD7FF) || (0xE000 ≤ n && n ≤ 0xFFFD) || (0x10000 ≤ n && n ≤ 0x10FFFF)

/-- A place a simple key may start. -/
structure SimpleKey where
  possible : Bool := false
  /-- The key starts a line at the block's indentation, so it must be one. -/
  required : Bool := false
  /-- The number of the token the key would be inserted before. -/
  number : Nat := 0
  mark : Mark := {}
  deriving Inhabited

structure Scanner where
  text : Array Char
  pos : Nat := 0
  mark : Mark := {}
  /-- Tokens scanned and not yet taken, oldest first. -/
  queue : List Token := []
  /-- How many tokens have been taken. -/
  taken : Nat := 0
  started : Bool := false
  ended : Bool := false
  flowLevel : Nat := 0
  indent : Int := -1
  indents : List Int := []
  keyAllowed : Bool := false
  /-- One possible simple key per flow level, innermost first. -/
  keys : List SimpleKey := []
  deriving Inhabited

abbrev ScanM := StateT Scanner (Except SyntaxError)

namespace Scanner

/-- A scanner at the start of a text. -/
def start (text : String) : Scanner := { text := text.toList.toArray }

/-- A bound on the steps of any loop over the text. -/
def bound (s : Scanner) : Nat := s.text.size + 2

def ahead (k : Nat) : ScanM Char := do
  let s ← get
  return s.text.getD (s.pos + k) endOfText

def scanError {α : Type} (context : Option (String × Mark)) (problem : String) : ScanM α := do
  throw { problem, mark := (← get).mark, context }

/-- Pass one character on the current line. -/
def skip : ScanM Unit := modify fun s =>
  let c := s.text.getD s.pos endOfText
  { s with pos := s.pos + 1,
           mark := { s.mark with index := s.mark.index + c.utf8Size, column := s.mark.column + 1 } }

def toNextLine (s : Scanner) (chars bytes : Nat) : Scanner :=
  { s with pos := s.pos + chars,
           mark := { index := s.mark.index + bytes, line := s.mark.line + 1, column := 0 } }

/-- Pass a line break; `\r\n` is one. -/
def skipLine : ScanM Unit := do
  let c ← ahead 0
  let d ← ahead 1
  if c == '\r' && d == '\n' then modify (toNextLine · 2 2)
  else if isBreak c then modify (toNextLine · 1 c.utf8Size)

/-- Pass a line break and give what it reads as: a line feed, or the line
and paragraph separators as themselves. -/
def readLine : ScanM String := do
  let c ← ahead 0
  let d ← ahead 1
  if c == '\r' && d == '\n' then
    modify (toNextLine · 2 2)
    return "\n"
  else if c == '\r' || c == '\n' || c == nextLine then
    modify (toNextLine · 1 c.utf8Size)
    return "\n"
  else if c == lineSeparator || c == paragraphSeparator then
    modify (toNextLine · 1 3)
    return String.singleton c
  else return ""

def enqueue (t : Token) : ScanM Unit := modify fun s => { s with queue := s.queue ++ [t] }

def insertToken (i : Nat) (t : Token) : ScanM Unit :=
  modify fun s => { s with queue := s.queue.take i ++ t :: s.queue.drop i }

def topKey (s : Scanner) : SimpleKey := s.keys.headD {}

def setTopKey (k : SimpleKey) : ScanM Unit := modify fun s =>
  { s with keys := k :: s.keys.tail }

/-- Forget the possible simple key of this level; one that had to be a key is
an error. -/
def removeSimpleKey : ScanM Unit := do
  let k := topKey (← get)
  if k.possible && k.required then
    scanError (some ("while scanning a simple key", k.mark)) "could not find expected ':'"
  setTopKey { k with possible := false }

/-- Note that the next token may be a simple key. -/
def saveSimpleKey : ScanM Unit := do
  let s ← get
  if s.keyAllowed then
    let required := s.flowLevel == 0 && s.indent == (s.mark.column : Int)
    let k : SimpleKey := ⟨true, required, s.taken + s.queue.length, s.mark⟩
    removeSimpleKey
    setTopKey k

/-- Possible simple keys end with their line and after 1024 bytes. -/
def staleSimpleKeys : ScanM Unit := do
  let s ← get
  let stale := fun (k : SimpleKey) =>
    k.possible && (k.mark.line < s.mark.line || k.mark.index + 1024 < s.mark.index)
  match s.keys.reverse.find? fun k => stale k && k.required with
  | some k => scanError (some ("while scanning a simple key", k.mark)) "could not find expected ':'"
  | none => set { s with keys := s.keys.map fun k => if stale k then { k with possible := false } else k }

def increaseFlowLevel : ScanM Unit := modify fun s =>
  { s with keys := {} :: s.keys, flowLevel := s.flowLevel + 1 }

def decreaseFlowLevel : ScanM Unit := modify fun s =>
  if s.flowLevel > 0 then { s with flowLevel := s.flowLevel - 1, keys := s.keys.tail } else s

/-- In block context, a collection opening at a deeper column starts a block:
emit its start token, at the end of the queue or at a simple key's place. -/
def rollIndent (column : Nat) (number : Option Nat) (kind : TokenKind) (mark : Mark) :
    ScanM Unit := do
  let s ← get
  if s.flowLevel == 0 && s.indent < (column : Int) then
    set { s with indents := s.indent :: s.indents, indent := column }
    let t : Token := ⟨kind, mark, mark⟩
    match number with
    | none => enqueue t
    | some n => insertToken (n - s.taken) t

/-- In block context, close every block deeper than `column`. -/
def unrollIndent (column : Int) : ScanM Unit := do
  if (← get).flowLevel > 0 then return
  for _ in [0:(← get).indents.length + 1] do
    let s ← get
    if s.indent > column then
      enqueue ⟨.blockEnd, s.mark, s.mark⟩
      modify fun s => { s with indent := s.indents.headD (-1), indents := s.indents.tail }
    else break

/-- Pass blanks, comments and line breaks up to the next token. Tabs are
passed only in flow context or where a simple key cannot start. -/
def scanToNextToken : ScanM Unit := do
  let n := (← get).bound
  for _ in [0:n] do
    if (← get).mark.column == 0 && (← ahead 0) == byteOrderMark then skip
    for _ in [0:n] do
      let c ← ahead 0
      let s ← get
      if c == ' ' || ((s.flowLevel > 0 || !s.keyAllowed) && c == '\t') then skip else break
    if (← ahead 0) == '#' then
      for _ in [0:n] do
        if isBreakZ (← ahead 0) then break else skip
    if isBreak (← ahead 0) then
      skipLine
      if (← get).flowLevel == 0 then modify fun s => { s with keyAllowed := true }
    else break

def fetchStreamStart : ScanM Unit := do
  modify fun s => { s with indent := -1, keys := [{}], keyAllowed := true, started := true }
  let m := (← get).mark
  enqueue ⟨.streamStart, m, m⟩

def fetchStreamEnd : ScanM Unit := do
  let s ← get
  if s.mark.column != 0 then
    set { s with mark := { s.mark with column := 0, line := s.mark.line + 1 } }
  unrollIndent (-1)
  removeSimpleKey
  modify fun s => { s with keyAllowed := false, ended := true }
  let m := (← get).mark
  enqueue ⟨.streamEnd, m, m⟩

def eatBlanks : ScanM Unit := do
  for _ in [0:(← get).bound] do
    if isBlank (← ahead 0) then skip else break

/-- The digits of a `%YAML` version part. -/
def versionNumber (startMark : Mark) : ScanM Nat := do
  let mut v := 0
  let mut length := 0
  for _ in [0:(← get).bound] do
    let c ← ahead 0
    if c.isDigit then
      length := length + 1
      if length > 9 then
        scanError (some ("while scanning a %YAML directive", startMark)) "found extremely long version number"
      v := v * 10 + (c.toNat - '0'.toNat)
      skip
    else break
  if length == 0 then
    scanError (some ("while scanning a %YAML directive", startMark)) "did not find expected version number"
  return v

/-- A tag handle: `!`, `!!` or `!word!`. -/
def scanTagHandle (directive : Bool) (startMark : Mark) : ScanM String := do
  if (← ahead 0) != '!' then
    scanError (some (if directive then "while scanning a tag directive" else "while scanning a tag",
      startMark)) "did not find expected '!'"
  skip
  let mut h := "!"
  for _ in [0:(← get).bound] do
    let c ← ahead 0
    if isWordChar c then
      h := h.push c
      skip
    else break
  if (← ahead 0) == '!' then
    h := h.push '!'
    skip
  else if directive && h != "!" then
    scanError (some ("while parsing a tag directive", startMark)) "did not find expected '!'"
  return h

/-- Characters a tag URI may hold; verbatim tags also take `,`, `[` and `]`. -/
def isUriChar (verbatim : Bool) (c : Char) : Bool :=
  isWordChar c || ";/?:@&=+$.%!~*'()".contains c || (verbatim && (c == ',' || c == '[' || c == ']'))

/-- One character written as `%XX` escapes of its UTF-8 bytes. -/
def scanUriEscapes (directive : Bool) (startMark : Mark) : ScanM String := do
  let context := some (if directive then "while parsing a %TAG directive" else "while parsing a tag", startMark)
  let mut bytes : Array UInt8 := #[]
  let mut width := 0
  for _ in [0:4] do
    let c ← ahead 0
    let h1 := hexDigit? (← ahead 1)
    let h2 := hexDigit? (← ahead 2)
    let some octet := (if c == '%' then (h1.bind fun a => h2.map fun b => a * 16 + b) else none)
      | scanError context "did not find URI escaped octet"
    if width == 0 then
      width := if octet < 0x80 then 1 else if octet / 32 == 6 then 2
        else if octet / 16 == 14 then 3 else if octet / 8 == 30 then 4 else 0
      if width == 0 then scanError context "found an incorrect leading UTF-8 octet"
    else if octet / 64 != 2 then scanError context "found an incorrect trailing UTF-8 octet"
    bytes := bytes.push octet.toUInt8
    skip; skip; skip
    if bytes.size == width then break
  return (String.fromUTF8? (ByteArray.mk bytes)).getD ""

/-- The URI part of a tag, after `head` (a scanned handle that turned out to
begin the URI; its leading `!` is dropped). -/
def scanTagUri (verbatim directive : Bool) (head : String) (startMark : Mark) : ScanM String := do
  let mut length := head.length
  let mut out := if head.length > 1 then String.ofList (head.toList.drop 1) else ""
  for _ in [0:(← get).bound] do
    let c ← ahead 0
    if isUriChar verbatim c then
      if c == '%' then out := out ++ (← scanUriEscapes directive startMark)
      else
        out := out.push c
        skip
      length := length + 1
    else break
  if length == 0 then
    scanError (some (if directive then "while parsing a %TAG directive" else "while parsing a tag",
      startMark)) "did not find expected tag URI"
  return out

/-- A `%YAML` or `%TAG` directive line. -/
def scanDirective : ScanM Unit := do
  let startMark := (← get).mark
  skip
  let mut name := ""
  for _ in [0:(← get).bound] do
    let c ← ahead 0
    if isWordChar c then
      name := name.push c
      skip
    else break
  if name.isEmpty then
    scanError (some ("while scanning a directive", startMark)) "could not find expected directive name"
  if !isBlankZ (← ahead 0) then
    scanError (some ("while scanning a directive", startMark)) "found unexpected non-alphabetical character"
  let kind ← if name == "YAML" then do
      eatBlanks
      let major ← versionNumber startMark
      if (← ahead 0) != '.' then
        scanError (some ("while scanning a %YAML directive", startMark))
          "did not find expected digit or '.' character"
      skip
      let minor ← versionNumber startMark
      pure (TokenKind.versionDirective major minor)
    else if name == "TAG" then do
      eatBlanks
      let handle ← scanTagHandle true startMark
      if !isBlank (← ahead 0) then
        scanError (some ("while scanning a %TAG directive", startMark)) "did not find expected whitespace"
      eatBlanks
      let pfx ← scanTagUri true true "" startMark
      if !isBlankZ (← ahead 0) then
        scanError (some ("while scanning a %TAG directive", startMark))
          "did not find expected whitespace or line break"
      pure (TokenKind.tagDirective handle pfx)
    else scanError (some ("while scanning a directive", startMark)) "found unknown directive name"
  let endMark := (← get).mark
  eatBlanks
  if (← ahead 0) == '#' then
    for _ in [0:(← get).bound] do
      if isBreakZ (← ahead 0) then break else skip
  if !isBreakZ (← ahead 0) then
    scanError (some ("while scanning a directive", startMark)) "did not find expected comment or line break"
  if isBreak (← ahead 0) then skipLine
  enqueue ⟨kind, startMark, endMark⟩

/-- An anchor `&name` or an alias `*name`. -/
def scanAnchor (isAnchor : Bool) : ScanM Unit := do
  let startMark := (← get).mark
  skip
  let mut name := ""
  for _ in [0:(← get).bound] do
    let c ← ahead 0
    if isWordChar c then
      name := name.push c
      skip
    else break
  let endMark := (← get).mark
  let c ← ahead 0
  if name.isEmpty || !(isBlankZ c || c == '?' || c == ':' || c == ',' || c == ']' ||
      c == '\x7d' || c == '%' || c == '@' || c == graveAccent) then
    scanError (some (if isAnchor then "while scanning an anchor" else "while scanning an alias",
      startMark)) "did not find expected alphabetic or numeric character"
  enqueue ⟨if isAnchor then .anchor name else .alias name, startMark, endMark⟩

/-- A tag: `!<uri>`, `!handle!suffix` or `!suffix`. -/
def scanTag : ScanM Unit := do
  let startMark := (← get).mark
  let mut handle := ""
  let mut suffix := ""
  if (← ahead 1) == '<' then
    skip; skip
    suffix ← scanTagUri true false "" startMark
    if (← ahead 0) != '>' then
      scanError (some ("while scanning a tag", startMark)) "did not find the expected '>'"
    skip
  else
    let h ← scanTagHandle false startMark
    if h.length > 1 && h.back == '!' then
      handle := h
      suffix ← scanTagUri false false "" startMark
    else
      suffix ← scanTagUri false false h startMark
      handle := "!"
      if suffix.isEmpty then
        handle := ""
        suffix := "!"
  let c ← ahead 0
  if !isBlankZ c then
    if (← get).flowLevel == 0 || c != ',' then
      scanError (some ("while scanning a tag", startMark)) "did not find expected whitespace or line break"
  let endMark := (← get).mark
  enqueue ⟨.tag handle suffix, startMark, endMark⟩

/-- Indentation and empty lines before or inside a block scalar; settles the
indentation from the deepest of the leading empty lines when not yet known. -/
def blockScalarBreaks (indent : Int) (startMark : Mark) : ScanM (Int × String × Mark) := do
  let n := (← get).bound
  let mut maxIndent : Nat := 0
  let mut endMark := (← get).mark
  let mut breaks := ""
  for _ in [0:n] do
    for _ in [0:n] do
      let col := (← get).mark.column
      if (indent == 0 || (col : Int) < indent) && (← ahead 0) == ' ' then skip else break
    let col := (← get).mark.column
    if col > maxIndent then maxIndent := col
    if (indent == 0 || (col : Int) < indent) && (← ahead 0) == '\t' then
      scanError (some ("while scanning a block scalar", startMark))
        "found a tab character where an indentation space is expected"
    if !isBreak (← ahead 0) then break
    breaks := breaks ++ (← readLine)
    endMark := (← get).mark
  let mut found := indent
  if found == 0 then
    found := maxIndent
    let outer := (← get).indent
    if found < outer + 1 then found := outer + 1
    if found < 1 then found := 1
  return (found, breaks, endMark)

/-- A literal (`|`) or folded (`>`) block scalar. -/
def scanBlockScalar (literal : Bool) : ScanM Unit := do
  let n := (← get).bound
  let startMark := (← get).mark
  skip
  let context := some ("while scanning a block scalar", startMark)
  let mut chomping : Int := 0
  let mut increment : Nat := 0
  let c ← ahead 0
  if c == '+' || c == '-' then
    chomping := if c == '+' then 1 else -1
    skip
    let d ← ahead 0
    if d.isDigit then
      if d == '0' then scanError context "found an indentation indicator equal to 0"
      increment := d.toNat - '0'.toNat
      skip
  else if c.isDigit then
    if c == '0' then scanError context "found an indentation indicator equal to 0"
    increment := c.toNat - '0'.toNat
    skip
    let d ← ahead 0
    if d == '+' || d == '-' then
      chomping := if d == '+' then 1 else -1
      skip
  eatBlanks
  if (← ahead 0) == '#' then
    for _ in [0:n] do
      if isBreakZ (← ahead 0) then break else skip
  if !isBreakZ (← ahead 0) then scanError context "did not find expected comment or line break"
  if isBreak (← ahead 0) then skipLine
  let mut indent : Int := 0
  if increment > 0 then
    let outer := (← get).indent
    indent := if outer ≥ 0 then outer + increment else increment
  let mut out := ""
  let mut leadingBreak := ""
  let (i, tb, em) ← blockScalarBreaks indent startMark
  indent := i
  let mut trailingBreaks := tb
  let mut endMark := em
  let mut leadingBlank := false
  for _ in [0:n] do
    if !(((← get).mark.column : Int) == indent && (← ahead 0) != endOfText) then break
    let trailingBlank := isBlank (← ahead 0)
    if !literal && leadingBreak == "\n" && !leadingBlank && !trailingBlank then
      if trailingBreaks.isEmpty then out := out.push ' '
      leadingBreak := ""
    else
      out := out ++ leadingBreak
      leadingBreak := ""
    out := out ++ trailingBreaks
    trailingBreaks := ""
    leadingBlank := isBlank (← ahead 0)
    for _ in [0:n] do
      let c ← ahead 0
      if isBreakZ c then break
      out := out.push c
      skip
    leadingBreak ← readLine
    let (i, tb, em) ← blockScalarBreaks indent startMark
    indent := i
    trailingBreaks := trailingBreaks ++ tb
    endMark := em
  if chomping != -1 then out := out ++ leadingBreak
  if chomping == 1 then out := out ++ trailingBreaks
  enqueue ⟨.scalar out (if literal then .literal else .folded), startMark, endMark⟩

/-- The character a one-letter escape of a double-quoted scalar stands for,
or the number of hex digits of a code escape. -/
def escape? (c : Char) : Option (Option Char × Nat) :=
  match c with
  | '0' => some (some (Char.ofNat 0), 0)
  | 'a' => some (some (Char.ofNat 7), 0)
  | 'b' => some (some (Char.ofNat 8), 0)
  | 't' | '\t' => some (some '\t', 0)
  | 'n' => some (some '\n', 0)
  | 'v' => some (some (Char.ofNat 11), 0)
  | 'f' => some (some (Char.ofNat 12), 0)
  | 'r' => some (some '\r', 0)
  | 'e' => some (some (Char.ofNat 27), 0)
  | ' ' => some (some ' ', 0)
  | '"' => some (some '"', 0)
  | '/' => some (some '/', 0)
  | '\'' => some (some '\'', 0)
  | '\\' => some (some '\\', 0)
  | 'N' => some (some nextLine, 0)
  | '_' => some (some (Char.ofNat 0xA0), 0)
  | 'L' => some (some lineSeparator, 0)
  | 'P' => some (some paragraphSeparator, 0)
  | 'x' => some (none, 2)
  | 'u' => some (none, 4)
  | 'U' => some (none, 8)
  | _ => none

/-- Joining the lines of a flow scalar: one line break becomes a space, more
keep all but the first; without a break the blanks stay. -/
def foldLines (out leadingBreak trailingBreaks whitespaces : String) (leadingBlanks : Bool) : String :=
  if leadingBlanks then
    if leadingBreak == "\n" then
      if trailingBreaks.isEmpty then out.push ' ' else out ++ trailingBreaks
    else out ++ leadingBreak ++ trailingBreaks
  else out ++ whitespaces

/-- A single- or double-quoted scalar. -/
def scanFlowScalar (single : Bool) : ScanM Unit := do
  let n := (← get).bound
  let startMark := (← get).mark
  let quote := if single then '\'' else '"'
  skip
  let mut out := ""
  for _ in [0:n] do
    let c0 ← ahead 0
    let c1 ← ahead 1
    let c2 ← ahead 2
    let c3 ← ahead 3
    if (← get).mark.column == 0 &&
        ((c0 == '-' && c1 == '-' && c2 == '-') || (c0 == '.' && c1 == '.' && c2 == '.')) && isBlankZ c3 then
      scanError (some ("while scanning a quoted scalar", startMark)) "found unexpected document indicator"
    if c0 == endOfText then
      scanError (some ("while scanning a quoted scalar", startMark)) "found unexpected end of stream"
    let mut leadingBlanks := false
    for _ in [0:n] do
      let c ← ahead 0
      if isBlankZ c then break
      let d ← ahead 1
      if single && c == '\'' && d == '\'' then
        out := out.push '\''
        skip; skip
      else if c == quote then break
      else if !single && c == '\\' && isBreak d then
        skip
        skipLine
        leadingBlanks := true
        break
      else if !single && c == '\\' then
        let some (ch, digits) := escape? d
          | scanError (some ("while parsing a quoted scalar", startMark)) "found unknown escape character"
        skip; skip
        if digits > 0 then
          let mut v := 0
          for k in [0:digits] do
            let some h := hexDigit? (← ahead k)
              | scanError (some ("while parsing a quoted scalar", startMark))
                  "did not find expected hexdecimal number"
            v := v * 16 + h
          if (0xD800 ≤ v && v ≤ 0xDFFF) || v > 0x10FFFF then
            scanError (some ("while parsing a quoted scalar", startMark))
              "found invalid Unicode character escape code"
          out := out.push (Char.ofNat v)
          for _ in [0:digits] do skip
        else out := out.push (ch.getD ' ')
      else
        out := out.push c
        skip
    if (← ahead 0) == quote then break
    let mut leadingBreak := ""
    let mut trailingBreaks := ""
    let mut whitespaces := ""
    for _ in [0:n] do
      let c ← ahead 0
      if isBlank c then
        if !leadingBlanks then whitespaces := whitespaces.push c
        skip
      else if isBreak c then
        if !leadingBlanks then
          whitespaces := ""
          leadingBreak ← readLine
          leadingBlanks := true
        else trailingBreaks := trailingBreaks ++ (← readLine)
      else break
    out := foldLines out leadingBreak trailingBreaks whitespaces leadingBlanks
  skip
  let endMark := (← get).mark
  enqueue ⟨.scalar out (if single then .singleQuoted else .doubleQuoted), startMark, endMark⟩

/-- An unquoted scalar, possibly over several lines. -/
def scanPlainScalar : ScanM Unit := do
  let n := (← get).bound
  let s0 ← get
  let startMark := s0.mark
  let indent : Int := s0.indent + 1
  let mut out := ""
  let mut leadingBreak := ""
  let mut trailingBreaks := ""
  let mut whitespaces := ""
  let mut leadingBlanks := false
  let mut endMark := startMark
  for _ in [0:n] do
    let c0 ← ahead 0
    let c1 ← ahead 1
    let c2 ← ahead 2
    let c3 ← ahead 3
    if (← get).mark.column == 0 &&
        ((c0 == '-' && c1 == '-' && c2 == '-') || (c0 == '.' && c1 == '.' && c2 == '.')) && isBlankZ c3 then
      break
    if c0 == '#' then break
    for _ in [0:n] do
      let c ← ahead 0
      if isBlankZ c then break
      let d ← ahead 1
      let inFlow := (← get).flowLevel > 0
      if inFlow && c == ':' &&
          (d == ',' || d == '?' || d == '[' || d == ']' || d == '\x7b' || d == '\x7d') then
        scanError (some ("while scanning a plain scalar", startMark)) "found unexpected ':'"
      if (c == ':' && isBlankZ d) ||
          (inFlow && (c == ',' || c == '[' || c == ']' || c == '\x7b' || c == '\x7d')) then
        break
      if leadingBlanks || !whitespaces.isEmpty then
        out := foldLines out leadingBreak trailingBreaks whitespaces leadingBlanks
        leadingBreak := ""
        trailingBreaks := ""
        whitespaces := ""
        leadingBlanks := false
      out := out.push c
      skip
      endMark := (← get).mark
    let c ← ahead 0
    if !(isBlank c || isBreak c) then break
    for _ in [0:n] do
      let c ← ahead 0
      if isBlank c then
        if leadingBlanks && ((← get).mark.column : Int) < indent && c == '\t' then
          scanError (some ("while scanning a plain scalar", startMark))
            "found a tab character that violates indentation"
        if !leadingBlanks then whitespaces := whitespaces.push c
        skip
      else if isBreak c then
        if !leadingBlanks then
          whitespaces := ""
          leadingBreak ← readLine
          leadingBlanks := true
        else trailingBreaks := trailingBreaks ++ (← readLine)
      else break
    if (← get).flowLevel == 0 && ((← get).mark.column : Int) < indent then break
  enqueue ⟨.scalar out .plain, startMark, endMark⟩
  if leadingBlanks then modify fun s => { s with keyAllowed := true }

/-- An indicator token of one or three characters. -/
def indicator (kind : TokenKind) (width : Nat) : ScanM Unit := do
  let startMark := (← get).mark
  for _ in [0:width] do skip
  enqueue ⟨kind, startMark, (← get).mark⟩

def fetchDocumentIndicator (kind : TokenKind) : ScanM Unit := do
  unrollIndent (-1)
  removeSimpleKey
  modify fun s => { s with keyAllowed := false }
  indicator kind 3

def fetchFlowCollectionStart (kind : TokenKind) : ScanM Unit := do
  saveSimpleKey
  increaseFlowLevel
  modify fun s => { s with keyAllowed := true }
  indicator kind 1

def fetchFlowCollectionEnd (kind : TokenKind) : ScanM Unit := do
  removeSimpleKey
  decreaseFlowLevel
  modify fun s => { s with keyAllowed := false }
  indicator kind 1

def fetchFlowEntry : ScanM Unit := do
  removeSimpleKey
  modify fun s => { s with keyAllowed := true }
  indicator .flowEntry 1

def fetchBlockEntry : ScanM Unit := do
  let s ← get
  if s.flowLevel == 0 then
    if !s.keyAllowed then scanError none "block sequence entries are not allowed in this context"
    rollIndent s.mark.column none .blockSequenceStart s.mark
  removeSimpleKey
  modify fun s => { s with keyAllowed := true }
  indicator .blockEntry 1

def fetchKey : ScanM Unit := do
  let s ← get
  if s.flowLevel == 0 then
    if !s.keyAllowed then scanError none "mapping keys are not allowed in this context"
    rollIndent s.mark.column none .blockMappingStart s.mark
  removeSimpleKey
  modify fun s => { s with keyAllowed := s.flowLevel == 0 }
  indicator .key 1

def fetchValue : ScanM Unit := do
  let s ← get
  let k := topKey s
  if k.possible then
    insertToken (k.number - s.taken) ⟨.key, k.mark, k.mark⟩
    rollIndent k.mark.column (some k.number) .blockMappingStart k.mark
    setTopKey { k with possible := false }
    modify fun s => { s with keyAllowed := false }
  else
    if s.flowLevel == 0 then
      if !s.keyAllowed then scanError none "mapping values are not allowed in this context"
      rollIndent s.mark.column none .blockMappingStart s.mark
    modify fun s => { s with keyAllowed := s.flowLevel == 0 }
  indicator .value 1

/-- Whether a character may start a plain scalar, given the next one. -/
def startsPlain (flow : Bool) (c d : Char) : Bool :=
  !(isBlankZ c || "-?:,[]#&*!|>'\"%@".contains c || c == '\x7b' || c == '\x7d' || c == graveAccent) ||
    (c == '-' && !isBlank d) || (!flow && (c == '?' || c == ':') && !isBlankZ d)

/-- Scan the next token. -/
def fetchNextToken : ScanM Unit := do
  if !(← get).started then
    fetchStreamStart
    return
  scanToNextToken
  staleSimpleKeys
  unrollIndent (← get).mark.column
  let c ← ahead 0
  let c1 ← ahead 1
  let c2 ← ahead 2
  let c3 ← ahead 3
  let s ← get
  let flow := s.flowLevel > 0
  let atLineStart := s.mark.column == 0
  if c == endOfText then fetchStreamEnd
  else if atLineStart && c == '%' then
    unrollIndent (-1)
    removeSimpleKey
    modify fun s => { s with keyAllowed := false }
    scanDirective
  else if atLineStart && c == '-' && c1 == '-' && c2 == '-' && isBlankZ c3 then
    fetchDocumentIndicator .documentStart
  else if atLineStart && c == '.' && c1 == '.' && c2 == '.' && isBlankZ c3 then
    fetchDocumentIndicator .documentEnd
  else if c == '[' then fetchFlowCollectionStart .flowSequenceStart
  else if c == '\x7b' then fetchFlowCollectionStart .flowMappingStart
  else if c == ']' then fetchFlowCollectionEnd .flowSequenceEnd
  else if c == '\x7d' then fetchFlowCollectionEnd .flowMappingEnd
  else if c == ',' then fetchFlowEntry
  else if c == '-' && isBlankZ c1 then fetchBlockEntry
  else if c == '?' && (flow || isBlankZ c1) then fetchKey
  else if c == ':' && (flow || isBlankZ c1) then fetchValue
  else if c == '*' || c == '&' then
    saveSimpleKey
    modify fun s => { s with keyAllowed := false }
    scanAnchor (c == '&')
  else if c == '!' then
    saveSimpleKey
    modify fun s => { s with keyAllowed := false }
    scanTag
  else if (c == '|' || c == '>') && !flow then
    removeSimpleKey
    modify fun s => { s with keyAllowed := true }
    scanBlockScalar (c == '|')
  else if c == '\'' || c == '"' then
    saveSimpleKey
    modify fun s => { s with keyAllowed := false }
    scanFlowScalar (c == '\'')
  else if startsPlain flow c c1 then
    saveSimpleKey
    modify fun s => { s with keyAllowed := false }
    scanPlainScalar
  else
    scanError (some ("while scanning for the next token", s.mark)) "found character that cannot start any token"

/-- Scan until the next token is certain: the queue holds a token and no
possible simple key would be inserted before it. -/
def fetchMoreTokens : ScanM Unit := do
  for _ in [0:(← get).bound + 2] do
    let s ← get
    if s.queue.isEmpty then
      if s.ended then break
    else
      staleSimpleKeys
      let s ← get
      if !s.keys.any fun k => k.possible && k.number == s.taken then break
    fetchNextToken

/-- The next token, scanning as needed. -/
def peek : ScanM Token := do
  fetchMoreTokens
  let s ← get
  return s.queue.headD ⟨.streamEnd, s.mark, s.mark⟩

/-- Take the next token. -/
def take : ScanM Unit := modify fun s => { s with queue := s.queue.tail, taken := s.taken + 1 }

end Scanner
end Yaml
end Geocube
