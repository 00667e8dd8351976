import UiLang.Yaml.Input
import UiLang.Number.Binary64

/-!
# What a scalar stands for

A plain scalar without a tag is read by its text: `true` and `false` (in three
spellings each) are booleans, `~`, `null` and the empty text are null, and
numbers and dates are what they look like; anything else is a string. A tag
asks for a kind of value: the text must then read as one of that kind, except
that an integer reads as a float, and every text reads as a string or as
base64 data. Tags this reader does not know keep the text as it is.

The text of a number follows YAML 1.2 with the integers of YAML 1.1 still
read: a sign, then decimal digits, or `0b`, `0o`, `0x` or a leading `0`
(octal) before the digits of that base; `_` between digits does not count.
Integers must fit in 64 bits, signed or not. A float is written in decimal
with an optional exponent, or as `.inf` or `.nan`; one that rounds beyond the
largest binary64 value is no float.

A date is `YYYY-M-D`, alone or followed by a time of day `h:m:s` with an
optional fraction, after `T`, `t` or blanks; after `T` or `t` a time zone `Z`
or `±hh:mm` must follow.
-/

namespace UiLang.Yaml

/-- The prefix of the tags of the YAML type repository. -/
def longTagPrefix : String := "tag:yaml.org,2002:"

/-- A tag of the YAML type repository in its short form, `!!name`; other tags
stay as they are. -/
def shortTag (tag : String) : String :=
  if tag.startsWith longTagPrefix then
    "!!" ++ String.ofList (tag.toList.drop longTagPrefix.length)
  else tag

/-- The short tags of the kinds of scalar. -/
def strTag : String := "!!str"
def intTag : String := "!!int"
def floatTag : String := "!!float"
def boolTag : String := "!!bool"
def nullTag : String := "!!null"
def timestampTag : String := "!!timestamp"
def binaryTag : String := "!!binary"
def mergeTag : String := "!!merge"
def seqTag : String := "!!seq"
def mapTag : String := "!!map"

/-- A resolved value, as far as reading settings needs to know it. -/
inductive Value
  | null
  | text (s : String)
  | other
  deriving DecidableEq, Repr, Inhabited

/-- A scalar's kind (its tag) and value. -/
structure Resolved where
  tag : String
  value : Value
  deriving DecidableEq, Repr, Inhabited

/-- What the first character of a text says it might be. -/
inductive Hint
  | empty
  | sign
  | digit
  | word
  | dot
  | none
  deriving DecidableEq, Repr

/-- The hint of a text. -/
def hintOf (s : String) : Hint :=
  match s.toList with
  | [] => .empty
  | c :: _ =>
    if c == '+' || c == '-' then .sign
    else if '0' ≤ c && c ≤ '9' then .digit
    else if "yYnNtTfFoO~".contains c then .word
    else if c == '.' then .dot
    else .none

/-- The texts that stand for one value each. -/
def knownScalar (s : String) : Option Resolved :=
  if ["true", "True", "TRUE", "false", "False", "FALSE"].contains s then some ⟨boolTag, .other⟩
  else if ["", "~", "null", "Null", "NULL"].contains s then some ⟨nullTag, .null⟩
  else if [".nan", ".NaN", ".NAN", ".inf", ".Inf", ".INF", "+.inf", "+.Inf", "+.INF",
      "-.inf", "-.Inf", "-.INF"].contains s then some ⟨floatTag, .other⟩
  else if s == "<<" then some ⟨mergeTag, .text "<<"⟩
  else none

/-! ## Integers -/

/-- The value of a digit in bases up to 36. -/
def digitValue (c : Char) : Option Nat :=
  if '0' ≤ c && c ≤ '9' then some (c.toNat - '0'.toNat)
  else if 'a' ≤ c && c ≤ 'z' then some (c.toNat - 'a'.toNat + 10)
  else if 'A' ≤ c && c ≤ 'Z' then some (c.toNat - 'A'.toNat + 10)
  else none

/-- The value of the digits `cs` in base `b`; the empty list is zero. -/
def digitsIn (b : Nat) (cs : List Char) : Option Nat :=
  cs.foldlM (fun acc c => do
    let d ← digitValue c
    if d < b then some (acc * b + d) else none) 0

/-- The value of an unsigned integer whose base is given by its prefix: `0b`,
`0o`, `0x` (before at least one more character), or `0` for octal. -/
def prefixedValue (s : List Char) : Option Nat :=
  match s with
  | [] => none
  | '0' :: rest =>
    match rest with
    | c :: ds =>
      if ds.isEmpty then digitsIn 8 rest
      else if c == 'b' || c == 'B' then digitsIn 2 ds
      else if c == 'o' || c == 'O' then digitsIn 8 ds
      else if c == 'x' || c == 'X' then digitsIn 16 ds
      else digitsIn 8 rest
    | [] => some 0
  | _ => digitsIn 10 s

/-- The largest unsigned 64-bit integer. -/
def maxUnsigned : Nat := Nat.pow 2 64 - 1

/-- The bound of the signed 64-bit integers: they lie in `[-bound, bound)`. -/
def signedBound : Nat := Nat.pow 2 63

/-- Whether a text is a signed 64-bit integer, given how its digits read. -/
def signedWith (digits : List Char → Option Nat) (s : List Char) : Bool :=
  let (neg, body) := match s with
    | '+' :: rest => (false, rest)
    | '-' :: rest => (true, rest)
    | _ => (false, s)
  if body.isEmpty then false
  else
    match digits body with
    | none => false
    | some n => if neg then n ≤ signedBound else n < signedBound

/-- Whether a text is an unsigned 64-bit integer, given how its digits read. -/
def unsignedWith (digits : List Char → Option Nat) (s : List Char) : Bool :=
  match digits s with
  | some n => !s.isEmpty && n ≤ maxUnsigned
  | none => false

/-! ## Floats -/

/-- Whether the `_` in a number stand between digits (or after a base prefix). -/
def underscoresFit (s : List Char) : Bool :=
  let body := match s with
    | '+' :: rest | '-' :: rest => rest
    | _ => s
  -- the last thing seen: 0 a digit or prefix, 1 an underscore, 2 anything else, 3 nothing
  let (start, rest, hex) := match body with
    | '0' :: c :: rest =>
      if c == 'b' || c == 'B' || c == 'o' || c == 'O' then (0, rest, false)
      else if c == 'x' || c == 'X' then (0, rest, true)
      else (3, body, false)
    | _ => (3, body, false)
  let isDigit (c : Char) : Bool :=
    ('0' ≤ c && c ≤ '9') || (hex && (('a' ≤ c && c ≤ 'f') || ('A' ≤ c && c ≤ 'F')))
  let last := rest.foldl (fun (seen : Option Nat) c =>
    match seen with
    | none => none
    | some k =>
      if isDigit c then some 0
      else if c == '_' then (if k == 0 then some 1 else none)
      else if k == 1 then none
      else some 2) (some start)
  match last with
  | some k => k != 1
  | none => false

/-- Reads a decimal number `[sign] digits [. digits] [e [sign] digits]`, where
the mantissa may also start with `.` and `_` may stand between digits: its
digits as a whole number and the power of ten that scales them. -/
def decimalParts (s : List Char) : Option (Nat × Int) := do
  let body := match s with
    | '+' :: rest | '-' :: rest => rest
    | _ => s
  let mant := body.takeWhile (fun c => ('0' ≤ c && c ≤ '9') || c == '_' || c == '.')
  let expPart := body.drop mant.length
  guard ((mant.filter (· == '.')).length ≤ 1)
  let intDigits := (mant.takeWhile (· != '.')).filter (· != '_')
  let fracDigits := ((mant.dropWhile (· != '.')).drop 1).filter (· != '_')
  guard (!(intDigits ++ fracDigits).isEmpty)
  let m ← digitsIn 10 (intDigits ++ fracDigits)
  let e : Int ← match expPart with
    | [] => some 0
    | c :: rest =>
      if c != 'e' && c != 'E' then none
      else
        let (neg, ds) := match rest with
          | '+' :: ds => (false, ds)
          | '-' :: ds => (true, ds)
          | _ => (false, rest)
        match ds with
        | [] => none
        | d :: _ =>
          if !('0' ≤ d && d ≤ '9') then none
          else do
            let v ← digitsIn 10 (ds.filter (· != '_'))
            let v := min v 10000
            some (if neg then -(v : Int) else v)
  guard (underscoresFit s)
  pure (m, e - fracDigits.length)

/-- Whether `m * 10 ^ e` rounds to a finite binary64 value. -/
def fitsBinary64 (m : Nat) (e : Int) : Bool :=
  if m == 0 then true
  else
    let size : Int := (toString m).length + e
    if size ≤ 308 then true
    else if size > 309 then false
    else (Number.Binary64.ofRat ((m : Rat) * Number.pow10 e)).isSome

/-- Whether a decimal text reads as a finite float. -/
def isDecimalFloat (s : String) : Bool :=
  match decimalParts s.toList with
  | some (m, e) => fitsBinary64 m e
  | none => false

/-- Whether a text has the shape of a YAML float:
`[-+]? (\.[0-9]+ | [0-9]+ (\.[0-9]*)?) ([eE][-+]?[0-9]+)?`. -/
def isFloatShape (s : String) : Bool :=
  let isDigit (c : Char) : Bool := '0' ≤ c && c ≤ '9'
  let body := match s.toList with
    | '+' :: rest | '-' :: rest => rest
    | cs => cs
  let mantissaOk (cs : List Char) : Option (List Char) :=
    match cs with
    | '.' :: rest =>
      let ds := rest.takeWhile isDigit
      if ds.isEmpty then none else some (rest.drop ds.length)
    | _ =>
      let ds := cs.takeWhile isDigit
      if ds.isEmpty then none
      else
        match cs.drop ds.length with
        | '.' :: rest => some (rest.dropWhile isDigit)
        | rest => some rest
  match mantissaOk body with
  | none => false
  | some [] => true
  | some (c :: rest) =>
    if c != 'e' && c != 'E' then false
    else
      let ds := match rest with
        | '+' :: ds | '-' :: ds => ds
        | ds => ds
      !ds.isEmpty && ds.all isDigit

/-! ## Dates -/

/-- Whether a year is a leap year. -/
def isLeapYear (y : Nat) : Bool := y % 4 == 0 && (y % 100 != 0 || y % 400 == 0)

/-- The number of days of a month. -/
def daysIn (month year : Nat) : Nat :=
  if month == 2 then (if isLeapYear year then 29 else 28)
  else if [4, 6, 9, 11].contains month then 30
  else 31

/-- Reads one or two digits. -/
def oneOrTwoDigits : List Char → Option (Nat × List Char)
  | c :: rest =>
    if !isDigitChar c then none
    else
      match rest with
      | d :: more =>
        if isDigitChar d then some ((c.toNat - 48) * 10 + (d.toNat - 48), more)
        else some (c.toNat - 48, rest)
      | [] => some (c.toNat - 48, [])
  | [] => none

/-- Reads exactly two digits. -/
def twoDigits : List Char → Option Nat
  | [c, d] => if isDigitChar c && isDigitChar d then some ((c.toNat - 48) * 10 + (d.toNat - 48)) else none
  | _ => none

/-- Reads `YYYY-M-D`: a valid date, and what follows it. -/
def readDate (s : List Char) : Option (List Char) := do
  let year ← digitsIn 10 (s.take 4)
  guard ((s.take 4).length == 4)
  let rest ← match s.drop 4 with
    | '-' :: rest => some rest
    | _ => none
  let (month, rest) ← oneOrTwoDigits rest
  guard (1 ≤ month && month ≤ 12)
  let rest ← match rest with
    | '-' :: rest => some rest
    | _ => none
  let (day, rest) ← oneOrTwoDigits rest
  guard (1 ≤ day && day ≤ daysIn month year)
  pure rest

/-- Reads `h:m:s` with an optional fraction of a second, and returns what
follows it. -/
def readTime (s : List Char) : Option (List Char) := do
  let (hour, rest) ← oneOrTwoDigits s
  guard (hour < 24)
  let rest ← match rest with
    | ':' :: rest => some rest
    | _ => none
  let (minute, rest) ← oneOrTwoDigits rest
  guard (minute < 60)
  let rest ← match rest with
    | ':' :: rest => some rest
    | _ => none
  let (second, rest) ← oneOrTwoDigits rest
  guard (second < 60)
  match rest with
  | c :: d :: more =>
    if (c == '.' || c == ',') && isDigitChar d then some (more.dropWhile isDigitChar)
    else some rest
  | _ => some rest

/-- Reads a time zone: `Z`, or a sign and `hh:mm`. -/
def readZone (s : List Char) : Option (List Char) :=
  match s with
  | 'Z' :: rest => some rest
  | sign :: h1 :: h2 :: ':' :: m1 :: m2 :: rest => do
    let hour ← twoDigits [h1, h2]
    let minute ← twoDigits [m1, m2]
    guard (hour ≤ 24 && minute ≤ 60 && (sign == '+' || sign == '-'))
    pure rest
  | _ => none

/-- Whether a text is a date, or a date and a time of day. -/
def isTimestamp (s : String) : Bool :=
  let cs := s.toList
  let lead := cs.takeWhile isDigitChar
  if lead.length != 4 || (cs.drop 4).head? != some '-' then false
  else
    let withZone : Bool := match readDate cs with
      | some (t :: rest) =>
        if t == 'T' || t == 't' then
          match readTime rest >>= readZone with
          | some [] => true
          | _ => false
        else false
      | _ => false
    let withBlank : Bool := match readDate cs with
      | some (' ' :: rest) =>
        match readTime (rest.dropWhile (· == ' ')) with
        | some [] => true
        | _ => false
      | _ => false
    let dateOnly := readDate cs == some []
    withZone || withBlank || dateOnly

/-! ## Base64 -/

/-- The value of a base64 character. -/
def base64Value (c : Char) : Option Nat :=
  if 'A' ≤ c && c ≤ 'Z' then some (c.toNat - 'A'.toNat)
  else if 'a' ≤ c && c ≤ 'z' then some (c.toNat - 'a'.toNat + 26)
  else if '0' ≤ c && c ≤ '9' then some (c.toNat - '0'.toNat + 52)
  else if c == '+' then some 62
  else if c == '/' then some 63
  else none

/-- The bytes of one group of four characters: three, or fewer when it ends
with padding. -/
def base64Group (last : Bool) : List Char → Option (List Nat)
  | [a, b, c, d] => do
    let va ← base64Value a
    let vb ← base64Value b
    if c == '=' then
      guard (last && d == '=')
      pure [(va * 4 + vb / 16) % 256]
    else
      let vc ← base64Value c
      if d == '=' then
        guard last
        pure [(va * 4 + vb / 16) % 256, (vb * 16 + vc / 4) % 256]
      else
        let vd ← base64Value d
        pure [(va * 4 + vb / 16) % 256, (vb * 16 + vc / 4) % 256, (vc * 64 + vd) % 256]
  | _ => none

/-- Decodes base64 text with padding; line breaks are ignored. -/
def decodeBase64 (s : String) : Option (List Nat) :=
  let cs := s.toList.filter (fun c => c != '\r' && c != '\n')
  let groups := (List.range (cs.length / 4)).map (fun k => (cs.drop (4 * k)).take 4)
  if cs.length % 4 != 0 then none
  else
    let n := groups.length
    (groups.zipIdx.mapM fun (g, k) => base64Group (k + 1 == n) g).map List.flatten

/-! ## Resolving -/

/-- Whether a tag asks for a kind this reader resolves. -/
def isResolvable (tag : String) : Bool :=
  ["", strTag, boolTag, intTag, floatTag, timestampTag, nullTag].contains tag

/-- What a text reads as, under a tag that is resolvable (short form). -/
def classify (tag value : String) : Resolved :=
  let hint := hintOf value
  let asText : Resolved := ⟨strTag, .text value⟩
  if hint == .none || tag == strTag || tag == binaryTag then asText
  else
    match knownScalar value with
    | some r => r
    | none =>
      match hint with
      | .dot => if isDecimalFloat value then ⟨floatTag, .other⟩ else asText
      | .digit | .sign =>
        if (tag == "" || tag == timestampTag) && isTimestamp value then ⟨timestampTag, .other⟩
        else
          let plain := value.toList.filter (· != '_')
          let isInt (cs : List Char) (b : Nat) : Bool :=
            signedWith (digitsIn b) cs || unsignedWith (digitsIn b) cs
          if signedWith prefixedValue plain || unsignedWith prefixedValue plain then
            ⟨intTag, .other⟩
          else if isFloatShape (String.ofList plain) && isDecimalFloat (String.ofList plain) then
            ⟨floatTag, .other⟩
          else
            let binary := match plain with
              | '0' :: 'b' :: rest => isInt rest 2
              | '-' :: '0' :: 'b' :: rest => signedWith (digitsIn 2) ('-' :: rest)
              | _ => false
            let octal := match plain with
              | '0' :: 'o' :: rest => isInt rest 8
              | '-' :: '0' :: 'o' :: rest => signedWith (digitsIn 8) ('-' :: rest)
              | _ => false
            if binary || octal then ⟨intTag, .other⟩ else asText
      | _ => asText

/-- What a scalar without a tag reads as. -/
def resolvePlain (value : String) : Resolved := classify "" value

/-- What a scalar reads as under a tag: a tag that is not resolvable keeps the
text; otherwise the text must read as the kind the tag asks for. -/
def resolve (tag value : String) : Except String Resolved :=
  let tag := shortTag tag
  if !isResolvable tag then .ok ⟨tag, .text value⟩
  else
    let r := classify tag value
    if tag == "" || tag == r.tag || tag == strTag then .ok r
    else if tag == floatTag && r.tag == intTag then .ok ⟨floatTag, .other⟩
    else .error ("cannot decode " ++ shortTag r.tag ++ " `" ++ value ++ "` as a " ++ tag)

end UiLang.Yaml
