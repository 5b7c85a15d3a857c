import Geocube.Document.Basic

/-!
Writing a document as compact JSON text.

Strings escape the quote, the backslash and control characters (the common
ones by letter, the rest as `\u00xx` with lowercase hex digits); everything else
is written as is. Numbers use the JSON number style of `Decimal.Style.json`. A
double that is not finite has no JSON form: `Document.compact` writes it as
`null`, while `Document.answer` writes it as the string `"NaN"`, `"Infinity"` or
`"-Infinity"`.
-/

namespace Geocube
namespace Document

def hexDigit (n : Nat) : Char :=
  if n < 10 then Char.ofNat ('0'.toNat + n) else Char.ofNat ('a'.toNat + n - 10)

/-- The escaped form of one character inside a string. -/
def escapeChar (c : Char) : String :=
  if c == '"' then "\\\""
  else if c == '\\' then "\\\\"
  else if c == '\n' then "\\n"
  else if c == '\r' then "\\r"
  else if c == '\t' then "\\t"
  else if c == '\x08' then "\\b"
  else if c == '\x0c' then "\\f"
  else if c.toNat < 0x20 then
    String.ofList ['\\', 'u', '0', '0', hexDigit (c.toNat / 16), hexDigit (c.toNat % 16)]
  else String.singleton c

/-- A string as a JSON string literal. -/
def quote (s : String) : String :=
  s.foldl (fun acc c => acc ++ escapeChar c) "\""  ++ "\""

/-- The text of a non-finite double in an answer. -/
def nonFiniteAnswer (x : Float) : String :=
  if x.isNaN then "\"NaN\"" else if x > 0.0 then "\"Infinity\"" else "\"-Infinity\""

mutual

/-- Compact text, with `special` writing the doubles that are not finite. -/
def writeWith (special : Float → String) : Document → String
  | .null => "null"
  | .bool b => if b then "true" else "false"
  | .int i => toString i
  | .float x => if x.isFinite then Decimal.jsonText x else special x
  | .str s => quote s
  | .arr xs => "[" ++ writeItems special xs ++ "]"
  | .obj fs => "\x7b" ++ writeFields special fs ++ "\x7d"

def writeItems (special : Float → String) : List Document → String
  | [] => ""
  | [x] => writeWith special x
  | x :: xs => writeWith special x ++ "," ++ writeItems special xs

def writeFields (special : Float → String) : List (String × Document) → String
  | [] => ""
  | [(k, v)] => quote k ++ ":" ++ writeWith special v
  | (k, v) :: fs => quote k ++ ":" ++ writeWith special v ++ "," ++ writeFields special fs

end

/-- Compact JSON text as the data format writes it; non-finite doubles become
`null`. -/
def compact (d : Document) : String := writeWith (fun _ => "null") d

/-- Compact JSON text of an answer; non-finite doubles become strings. -/
def answer (d : Document) : String := writeWith nonFiniteAnswer d

end Document
end Geocube
