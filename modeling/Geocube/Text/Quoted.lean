
/-!
Text quoted for diagnostics.

Messages that show a piece of text put it between double quotes and escape
what would not read back: the quote, the backslash, tab, carriage return, line
feed and NUL by a backslash and a letter, and every other control character,
combining mark or invisible formatting character as `\u{hex}` with lowercase
digits and no leading zeros. Everything else stands as it is.
-/

namespace Geocube
namespace Text

/-- Characters written as a `\u{...}` escape: controls, combining marks and
invisible formatting characters. -/
def isHidden (c : Char) : Bool :=
  let n := c.toNat
  n < 0x20 || (0x7F ≤ n && n ≤ 0x9F) || n == 0xAD
    || (0x300 ≤ n && n ≤ 0x36F) || (0x483 ≤ n && n ≤ 0x489)
    || (0x591 ≤ n && n ≤ 0x5BD) || (0x610 ≤ n && n ≤ 0x61A) || (0x64B ≤ n && n ≤ 0x65F)
    || (0x1AB0 ≤ n && n ≤ 0x1AFF) || (0x1DC0 ≤ n && n ≤ 0x1DFF)
    || (0x200B ≤ n && n ≤ 0x200F) || (0x2028 ≤ n && n ≤ 0x202E)
    || (0x2060 ≤ n && n ≤ 0x2064) || (0x20D0 ≤ n && n ≤ 0x20F0)
    || (0xD800 ≤ n && n ≤ 0xDFFF) || (0xE000 ≤ n && n ≤ 0xF8FF)
    || (0xFE00 ≤ n && n ≤ 0xFE0F) || (0xFE20 ≤ n && n ≤ 0xFE2F) || n == 0xFEFF
    || (0xFFF0 ≤ n && n ≤ 0xFFFB) || n == 0xFFFE || n == 0xFFFF
    || (0xE0000 ≤ n && n ≤ 0xE0FFF) || 0xF0000 ≤ n

/-- The lowercase hexadecimal digits of a number, without leading zeros. -/
def hexDigits (n : Nat) : String := String.ofList ((Nat.toDigits 16 n))

/-- The escaped form of one character. -/
def escapeShown (c : Char) : String :=
  if c == '"' then "\\\""
  else if c == '\\' then "\\\\"
  else if c == '\t' then "\\t"
  else if c == '\r' then "\\r"
  else if c == '\n' then "\\n"
  else if c == '\x00' then "\\0"
  else if isHidden c then "\\u\x7b" ++ hexDigits c.toNat ++ "\x7d"
  else c.toString

/-- Text between double quotes, escaped to be read back. -/
def quoted (s : String) : String := "\"" ++ String.join (s.toList.map escapeShown) ++ "\""

end Text
end Geocube
