/-!
# Character classes of YAML text

The classes the scanner tests characters against. The character `'\x00'`
stands for the end of the text: the scanner reads it past the last character,
and the reader never lets one through from the text itself.
-/

namespace UiLang.Yaml

/-- The end of the text. -/
def isEnd (c : Char) : Bool := c == '\x00'

/-- A space. -/
def isSpace (c : Char) : Bool := c == ' '

/-- A tab. -/
def isTab (c : Char) : Bool := c == '\t'

/-- A blank: a space or a tab. -/
def isBlank (c : Char) : Bool := c == ' ' || c == '\t'

/-- A line break: carriage return, line feed, next line, line separator or
paragraph separator. -/
def isBreak (c : Char) : Bool :=
  c == '\r' || c == '\n' || c == '\u0085' || c == '\u2028' || c == '\u2029'

/-- A line break or the end of the text. -/
def isBreakOrEnd (c : Char) : Bool := isBreak c || isEnd c

/-- A blank, a line break or the end of the text. -/
def isBlankOrEnd (c : Char) : Bool := isBlank c || isBreakOrEnd c

/-- An ASCII letter, digit, underscore or hyphen: the characters of directive
names, tag handles and anchors. -/
def isWordChar (c : Char) : Bool :=
  ('0' ≤ c && c ≤ '9') || ('A' ≤ c && c ≤ 'Z') || ('a' ≤ c && c ≤ 'z') || c == '_' || c == '-'

/-- An ASCII digit. -/
def isDigitChar (c : Char) : Bool := '0' ≤ c && c ≤ '9'

/-- An ASCII hexadecimal digit. -/
def isHexChar (c : Char) : Bool :=
  isDigitChar c || ('A' ≤ c && c ≤ 'F') || ('a' ≤ c && c ≤ 'f')

/-- The value of a hexadecimal digit. -/
def hexValueOf (c : Char) : Nat :=
  if 'A' ≤ c && c ≤ 'F' then c.toNat - 'A'.toNat + 10
  else if 'a' ≤ c && c ≤ 'f' then c.toNat - 'a'.toNat + 10
  else c.toNat - '0'.toNat

/-- The byte order mark. -/
def isByteOrderMark (c : Char) : Bool := c == '\uFEFF'

/-- A character the reader accepts: tab, line feed, carriage return, printable
ASCII, next line, and the code points from `0xA0` up other than surrogates,
`0xFFFE` and `0xFFFF`. -/
def isAllowed (c : Char) : Bool :=
  let n := c.toNat
  n == 0x09 || n == 0x0A || n == 0x0D || (0x20 ≤ n && n ≤ 0x7E) || n == 0x85 ||
    (0xA0 ≤ n && n ≤ 0xD7FF) || (0xE000 ≤ n && n ≤ 0xFFFD) || (0x10000 ≤ n && n ≤ 0x10FFFF)

end UiLang.Yaml
