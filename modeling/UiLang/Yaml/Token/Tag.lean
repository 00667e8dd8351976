import UiLang.Yaml.Token.State

/-!
# Anchors, tags and directives

An anchor `&name` or an alias `*name` is a run of letters, digits, `_` and `-`.
A tag is `!<uri>` (verbatim), `!handle!suffix` (a named handle), `!suffix`
(the primary handle), or `!` alone. A URI is made of letters, digits and the
characters `;/?:@&=+$.!~*'()%`, where `%` starts a byte written as two hex
digits; a verbatim URI may also hold `,[]`.

A directive is `%YAML major.minor` or `%TAG handle uri` at the start of a line.
-/

namespace UiLang.Yaml

namespace Scanner

/-- Scans an anchor (`&`) or an alias (`*`). -/
def scanAnchor (isAlias : Bool) : ScanM Token := do
  let start := (← get).mark
  skip
  ensure 1
  let mut name := ""
  for _ in [0:rounds (← get)] do
    if !isWordChar (← peek) then break
    name ← read name
    ensure 1
  let stop := (← get).mark
  let c ← peek
  let fits := isBlankOrEnd c || c == '?' || c == ':' || c == ',' || c == ']' || c == '}' ||
    c == '%' || c == '@' || c == '`'
  if name.isEmpty || !fits then
    fail start "did not find expected alphabetic or numeric character"
  pure ⟨if isAlias then .alias name else .anchor name, start, stop⟩

/-- Scans a tag handle: `!`, then letters and digits, then `!` if there is one.
In a `%TAG` directive the handle must end with `!` unless it is `!` alone. -/
def scanTagHandle (directive : Bool) (start : Mark) : ScanM String := do
  ensure 1
  if (← peek) != '!' then fail start "did not find expected '!'"
  let mut handle ← read ""
  ensure 1
  for _ in [0:rounds (← get)] do
    if !isWordChar (← peek) then break
    handle ← read handle
    ensure 1
  if (← peek) == '!' then
    handle ← read handle
  else if directive && handle != "!" then
    fail start "did not find expected '!'"
  pure handle

/-- Reads a URI escape at the current place: `%` and two hex digits for each
byte of one UTF-8 character. Adds the bytes, last first. -/
def scanUriEscapes (start : Mark) (bytes : List Nat) : ScanM (List Nat) := do
  let mut bytes := bytes
  let mut width := 0
  let mut first := true
  for _ in [0:4] do
    if !first && width == 0 then break
    ensure 3
    let c0 ← peekAt 0
    let c1 ← peekAt 1
    let c2 ← peekAt 2
    if !(c0 == '%' && isHexChar c1 && isHexChar c2) then
      fail start "did not find URI escaped octet"
    let octet := hexValueOf c1 * 16 + hexValueOf c2
    if first then
      width := if octet < 0x80 then 1 else if octet / 0x20 == 0x06 then 2
        else if octet / 0x10 == 0x0E then 3 else if octet / 0x08 == 0x1E then 4 else 0
      if width == 0 then fail start "found an incorrect leading UTF-8 octet"
      first := false
    else if octet / 0x40 != 2 then
      fail start "found an incorrect trailing UTF-8 octet"
    bytes := octet :: bytes
    skipN 3
    width := width - 1
  pure bytes

/-- Whether a character may stand in a tag URI; `verbatim` adds `,[]`. -/
def isUriChar (verbatim : Bool) (c : Char) : Bool :=
  isWordChar c || ";/?:@&=+$.!~*'()%".contains c || (verbatim && (c == ',' || c == '[' || c == ']'))

/-- Scans a tag URI after `head` (a handle that turned out to be the start of
the URI; its `!` is dropped). The URI must not be empty. -/
def scanTagUri (verbatim : Bool) (head : String) (start : Mark) : ScanM String := do
  let mut bytes : List Nat := ((head.toList.drop 1).flatMap bytesOfChar).reverse
  let mut any := !head.isEmpty
  ensure 1
  for _ in [0:rounds (← get)] do
    let c ← peek
    if !isUriChar verbatim c then break
    if c == '%' then
      bytes ← scanUriEscapes start bytes
    else
      bytes := (bytesOfChar c).reverse ++ bytes
      skip
    ensure 1
    any := true
  if !any then fail start "did not find expected tag URI"
  pure (textOfBytes bytes.reverse)

/-- Scans a tag. -/
def scanTag : ScanM Token := do
  let start := (← get).mark
  ensure 2
  let mut handle := ""
  let mut suffix := ""
  if (← peekAt 1) == '<' then
    skipN 2
    suffix ← scanTagUri true "" start
    if (← peek) != '>' then fail start "did not find the expected '>'"
    skip
  else
    let h ← scanTagHandle false start
    if h.length > 1 && h.startsWith "!" && h.endsWith "!" then
      handle := h
      suffix ← scanTagUri false "" start
    else
      suffix ← scanTagUri false h start
      handle := "!"
      if suffix.isEmpty then
        handle := ""
        suffix := "!"
  ensure 1
  let c ← peek
  if !isBlankOrEnd c then
    if (← get).flowLevel == 0 || c != ',' then
      fail start "did not find expected whitespace or line break"
  let stop := (← get).mark
  pure ⟨.tag handle suffix, start, stop⟩

/-- Scans the name of a directive. -/
def scanDirectiveName (start : Mark) : ScanM String := do
  ensure 1
  let mut name := ""
  for _ in [0:rounds (← get)] do
    if !isWordChar (← peek) then break
    name ← read name
    ensure 1
  if name.isEmpty then fail start "could not find expected directive name"
  if !isBlankOrEnd (← peek) then fail start "found unexpected non-alphabetical character"
  pure name

/-- Skips blanks. -/
def skipBlanks : ScanM Unit := do
  ensure 1
  for _ in [0:rounds (← get)] do
    if !isBlank (← peek) then break
    skip
    ensure 1

/-- Scans one number of a `%YAML` directive: one or two digits. -/
def scanVersionNumber (start : Mark) : ScanM Nat := do
  ensure 1
  let mut value := 0
  let mut length := 0
  for _ in [0:rounds (← get)] do
    let c ← peek
    if !isDigitChar c then break
    length := length + 1
    if length > 2 then fail start "found extremely long version number"
    value := value * 10 + (c.toNat - '0'.toNat)
    skip
    ensure 1
  if length == 0 then fail start "did not find expected version number"
  pure value

/-- Scans a directive, and the rest of its line. -/
def scanDirective : ScanM Token := do
  let start := (← get).mark
  skip
  let name ← scanDirectiveName start
  let kind ←
    if name == "YAML" then do
      skipBlanks
      let major ← scanVersionNumber start
      if (← peek) != '.' then fail start "did not find expected digit or '.' character"
      skip
      let minor ← scanVersionNumber start
      pure (TokenKind.versionDirective major minor)
    else if name == "TAG" then do
      skipBlanks
      let handle ← scanTagHandle true start
      ensure 1
      if !isBlank (← peek) then fail start "did not find expected whitespace"
      skipBlanks
      let target ← scanTagUri true "" start
      ensure 1
      if !isBlankOrEnd (← peek) then fail start "did not find expected whitespace or line break"
      pure (TokenKind.tagDirective handle target)
    else fail start "found unknown directive name"
  let stop := (← get).mark
  skipBlanks
  if (← peek) == '#' then
    for _ in [0:rounds (← get)] do
      if isBreakOrEnd (← peek) then break
      skip
      ensure 1
  if !isBreakOrEnd (← peek) then fail start "did not find expected comment or line break"
  if isBreak (← peek) then
    ensure 2
    skipLine
  pure ⟨kind, start, stop⟩

end Scanner

end UiLang.Yaml
