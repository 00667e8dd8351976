import UiLang.Yaml.Token.State

/-!
# Scalars

The three ways to write a scalar: in quotes (single or double), plain, and as
a block (literal `|` or folded `>`).

Line breaks inside a quoted or plain scalar are folded: a single break between
two pieces of text becomes a space, and each further break (an empty line) stays
a line feed. Blanks at the start and end of each line do not count. A line
separator or paragraph separator is kept as it is instead of folding.

A block scalar keeps its lines as they are, below an indentation found from its
first line that is not empty (or given by an indicator); a folded one joins
lines that are neither empty nor indented further with a space. At its end the
last line break is kept (clip), dropped (`-`, strip), or kept with every empty
line after it (`+`, keep).
-/

namespace UiLang.Yaml

namespace Scanner

/-- Whether the text at the current place is a document marker at the start of a
line: `---` or `...` before a blank, a line break or the end. -/
def atDocumentMarker : ScanM Bool := do
  let s ← get
  let c0 ← peekAt 0
  let c1 ← peekAt 1
  let c2 ← peekAt 2
  let c3 ← peekAt 3
  pure (s.mark.column == 0 &&
    ((c0 == '-' && c1 == '-' && c2 == '-') || (c0 == '.' && c1 == '.' && c2 == '.')) &&
    isBlankOrEnd c3)

/-- The text a one-letter escape of a double-quoted scalar stands for. -/
def escapeText : Char → Option String
  | '0' => some "\x00"
  | 'a' => some "\x07"
  | 'b' => some "\x08"
  | 't' => some "\t"
  | '\t' => some "\t"
  | 'n' => some "\n"
  | 'v' => some "\x0b"
  | 'f' => some "\x0c"
  | 'r' => some "\r"
  | 'e' => some "\x1b"
  | ' ' => some " "
  | '"' => some "\""
  | '\'' => some "'"
  | '\\' => some "\\"
  | 'N' => some "\u0085"
  | '_' => some "\u00A0"
  | 'L' => some "\u2028"
  | 'P' => some "\u2029"
  | _ => none

/-- The number of hex digits after an escape letter that takes a code point. -/
def escapeDigits : Char → Nat
  | 'x' => 2
  | 'u' => 4
  | 'U' => 8
  | _ => 0

/-- Reads an escape sequence of a double-quoted scalar at the current place (a
backslash that is not before a line break) and adds what it stands for. -/
def readEscape (start : Mark) (text : String) : ScanM String := do
  let e ← peekAt 1
  let digits := escapeDigits e
  match escapeText e with
  | some t => skipN 2; pure (text ++ t)
  | none =>
    if digits == 0 then fail start "found unknown escape character"
    else
      skipN 2
      ensure digits
      let mut value := 0
      for k in [0:digits] do
        let c ← peekAt k
        if !isHexChar c then fail start "did not find expected hexdecimal number"
        value := value * 16 + hexValueOf c
      if (0xD800 ≤ value && value ≤ 0xDFFF) || value > 0x10FFFF then
        fail start "found invalid Unicode character escape code"
      skipN digits
      pure (text.push (Char.ofNat value))

/-- The text after blanks and line breaks inside a quoted or plain scalar: a
first line break folds into a space, or into the line feeds of the empty lines
after it; blanks between words stay. -/
def joinBlanks (text leadingBreak trailingBreaks whitespaces : String) (leadingBlanks : Bool) :
    String :=
  if leadingBlanks then
    if leadingBreak.startsWith "\n" then
      if trailingBreaks.isEmpty then text.push ' ' else text ++ trailingBreaks
    else text ++ leadingBreak ++ trailingBreaks
  else text ++ whitespaces

/-- Scans a quoted scalar, single-quoted when `single` holds. -/
def scanFlowScalar (single : Bool) : ScanM Token := do
  let start := (← get).mark
  skip
  let mut text := ""
  let mut leadingBreak := ""
  let mut trailingBreaks := ""
  let mut whitespaces := ""
  for _ in [0:rounds (← get)] do
    ensure 4
    if ← atDocumentMarker then fail start "found unexpected document indicator"
    if isEnd (← peek) then fail start "found unexpected end of stream"
    let mut leadingBlanks := false
    -- the characters up to the next blank
    for _ in [0:rounds (← get)] do
      let c ← peek
      if isBlankOrEnd c then break
      let d ← peekAt 1
      if single && c == '\'' && d == '\'' then
        text := text.push '\''
        skipN 2
      else if single && c == '\'' then break
      else if !single && c == '"' then break
      else if !single && c == '\\' && isBreak d then
        ensure 3
        skip
        skipLine
        leadingBlanks := true
        break
      else if !single && c == '\\' then
        text ← readEscape start text
      else
        text ← read text
      ensure 2
    ensure 1
    let c ← peek
    if (single && c == '\'') || (!single && c == '"') then break
    -- blanks and line breaks
    for _ in [0:rounds (← get)] do
      let c ← peek
      if !(isBlank c || isBreak c) then break
      if isBlank c then
        if !leadingBlanks then whitespaces ← read whitespaces else skip
      else
        ensure 2
        if !leadingBlanks then
          whitespaces := ""
          leadingBreak ← readLine leadingBreak
          leadingBlanks := true
        else
          trailingBreaks ← readLine trailingBreaks
      ensure 1
    text := joinBlanks text leadingBreak trailingBreaks whitespaces leadingBlanks
    if leadingBlanks then
      leadingBreak := ""
      trailingBreaks := ""
    else
      whitespaces := ""
  skip
  let stop := (← get).mark
  pure ⟨.scalar text (if single then .singleQuoted else .doubleQuoted), start, stop⟩

/-- Whether a character ends a plain scalar inside a flow collection. -/
def isFlowStop (c : Char) : Bool :=
  c == ',' || c == '?' || c == '[' || c == ']' || c == '{' || c == '}'

/-- Scans a plain scalar. It ends before `: ` or a comment, at a document
marker, before a line indented no further than the current block (in the block
context), and before a flow indicator (in a flow collection). -/
def scanPlainScalar : ScanM Token := do
  let s0 ← get
  let indent : Int := s0.indent + 1
  let start := s0.mark
  let mut stop := s0.mark
  let mut text := ""
  let mut leadingBreak := ""
  let mut trailingBreaks := ""
  let mut whitespaces := ""
  let mut leadingBlanks := false
  for _ in [0:rounds s0] do
    ensure 4
    if ← atDocumentMarker then break
    if (← peek) == '#' then break
    -- the characters up to the next blank
    for _ in [0:rounds s0] do
      let c ← peek
      if isBlankOrEnd c then break
      let d ← peekAt 1
      let flow := (← get).flowLevel > 0
      if (c == ':' && isBlankOrEnd d) || (flow && isFlowStop c) then break
      if leadingBlanks || !whitespaces.isEmpty then
        text := joinBlanks text leadingBreak trailingBreaks whitespaces leadingBlanks
        if leadingBlanks then
          trailingBreaks := ""
          leadingBreak := ""
          leadingBlanks := false
        else
          whitespaces := ""
      text ← read text
      stop := (← get).mark
      ensure 2
    let c ← peek
    if !(isBlank c || isBreak c) then break
    ensure 1
    -- blanks and line breaks
    for _ in [0:rounds s0] do
      let c ← peek
      if !(isBlank c || isBreak c) then break
      if isBlank c then
        let col := (← get).mark.column
        if leadingBlanks && (col : Int) < indent && isTab c then
          fail start "found a tab character that violates indentation"
        if !leadingBlanks then whitespaces ← read whitespaces else skip
      else
        ensure 2
        if !leadingBlanks then
          whitespaces := ""
          leadingBreak ← readLine leadingBreak
          leadingBlanks := true
        else
          trailingBreaks ← readLine trailingBreaks
      ensure 1
    let s ← get
    if s.flowLevel == 0 && (s.mark.column : Int) < indent then break
  if leadingBlanks then modify fun s => { s with keyAllowed := true }
  pure ⟨.scalar text .plain, start, stop⟩

/-- Reads the indentation and the empty lines before a line of a block scalar,
adding the line breaks to `breaks`. With `indent = 0` the indentation is not
known yet: it becomes the deepest one met, at least one more than the current
block's. Returns the indentation, the breaks and the place after the last
break. -/
def blockScalarBreaks (indent : Nat) (breaks : String) (start : Mark) :
    ScanM (Nat × String × Mark) := do
  let s0 ← get
  let mut stop := s0.mark
  let mut widest := 0
  let mut breaks := breaks
  for _ in [0:rounds s0] do
    ensure 1
    for _ in [0:rounds s0] do
      let s ← get
      if (indent == 0 || s.mark.column < indent) && isSpace (s.input.get s.mark.index) then
        skip
        ensure 1
      else break
    let s ← get
    if s.mark.column > widest then widest := s.mark.column
    let c ← peek
    if (indent == 0 || s.mark.column < indent) && isTab c then
      fail start "found a tab character where an indentation space is expected"
    if !isBreak c then break
    ensure 2
    breaks ← readLine breaks
    stop := (← get).mark
  let level := (← get).indent + 1
  let found : Nat :=
    if indent != 0 then indent
    else max (max widest level.toNat) 1
  pure (found, breaks, stop)

/-- Scans a block scalar, literal when `literal` holds. -/
def scanBlockScalar (literal : Bool) : ScanM Token := do
  let start := (← get).mark
  skip
  ensure 1
  let mut chomping : Int := 0
  let mut increment := 0
  let c ← peek
  if c == '+' || c == '-' then
    chomping := if c == '+' then 1 else -1
    skip
    ensure 1
    let d ← peek
    if isDigitChar d then
      if d == '0' then fail start "found an indentation indicator equal to 0"
      increment := d.toNat - '0'.toNat
      skip
  else if isDigitChar c then
    if c == '0' then fail start "found an indentation indicator equal to 0"
    increment := c.toNat - '0'.toNat
    skip
    ensure 1
    let d ← peek
    if d == '+' || d == '-' then
      chomping := if d == '+' then 1 else -1
      skip
  ensure 1
  for _ in [0:rounds (← get)] do
    if isBlank (← peek) then
      skip
      ensure 1
    else break
  if (← peek) == '#' then
    for _ in [0:rounds (← get)] do
      if isBreakOrEnd (← peek) then break
      skip
      ensure 1
  if !isBreakOrEnd (← peek) then fail start "did not find expected comment or line break"
  if isBreak (← peek) then
    ensure 2
    skipLine
  let s ← get
  let given : Nat :=
    if increment > 0 then
      if s.indent ≥ 0 then s.indent.toNat + increment else increment
    else 0
  let (indent, first, stop0) ← blockScalarBreaks given "" start
  let mut indent := indent
  let mut stop := stop0
  let mut trailingBreaks := first
  let mut leadingBreak := ""
  let mut text := ""
  let mut leadingBlank := false
  ensure 1
  for _ in [0:rounds s] do
    let s ← get
    let c := s.input.get s.mark.index
    if !(s.mark.column == indent && !isEnd c) then break
    let trailingBlank := isBlank c
    if !literal && !leadingBlank && !trailingBlank && leadingBreak.startsWith "\n" then
      if trailingBreaks.isEmpty then text := text.push ' '
    else
      text := text ++ leadingBreak
    leadingBreak := ""
    text := text ++ trailingBreaks
    trailingBreaks := ""
    leadingBlank := isBlank c
    for _ in [0:rounds s] do
      if isBreakOrEnd (← peek) then break
      text ← read text
      ensure 1
    ensure 2
    leadingBreak ← readLine leadingBreak
    let (i, b, m) ← blockScalarBreaks indent trailingBreaks start
    indent := i
    trailingBreaks := b
    stop := m
  if chomping != -1 then text := text ++ leadingBreak
  if chomping == 1 then text := text ++ trailingBreaks
  pure ⟨.scalar text (if literal then .literal else .folded), start, stop⟩

end Scanner

end UiLang.Yaml
