import UiLang.Text.Printable

/-!
# Quoted text

The quoted form of a string or a character, as it appears in messages and in
generated code. Between the quotes every printable character stands for itself,
except the quote character and the backslash, which take a backslash. The seven
control characters with a letter escape use it (`\a \b \f \n \r \t \v`); every
other unprintable character is written by its code point: `\x` and two hex
digits below the space and for DEL, `\u` and four digits below `0x10000`, `\U`
and eight digits above. Hex digits are lower case.
-/

namespace UiLang.Text

/-- The hex digits of `n`, lower case, padded with zeros to `width`. -/
def hexDigits (width n : Nat) : List Char :=
  let ds := Nat.toDigits 16 n
  List.replicate (width - ds.length) '0' ++ ds

/-- The escape of an unprintable character. -/
def escapeCode (c : Char) : List Char :=
  match c with
  | '\x07' => ['\\', 'a']
  | '\x08' => ['\\', 'b']
  | '\x0c' => ['\\', 'f']
  | '\n' => ['\\', 'n']
  | '\r' => ['\\', 'r']
  | '\t' => ['\\', 't']
  | '\x0b' => ['\\', 'v']
  | _ =>
    if c.val < 0x20 ∨ c.val = 0x7F then '\\' :: 'x' :: hexDigits 2 c.toNat
    else if c.val < 0x10000 then '\\' :: 'u' :: hexDigits 4 c.toNat
    else '\\' :: 'U' :: hexDigits 8 c.toNat

/-- How one character is written between `quote` characters. -/
def quoteChar (quote c : Char) : List Char :=
  if c = quote ∨ c = '\\' then ['\\', c]
  else if isPrintable c then [c]
  else escapeCode c

/-- The characters `cs` between two `quote` characters, each written by
`quoteChar`. -/
def quoteWith (quote : Char) (cs : List Char) : List Char :=
  quote :: cs.flatMap (quoteChar quote) ++ [quote]

/-- A string in double quotes. -/
def quoted (s : String) : String :=
  String.ofList (quoteWith '"' s.toList)

/-- A character in single quotes. -/
def quotedChar (c : Char) : String :=
  String.ofList (quoteWith '\'' [c])

end UiLang.Text
