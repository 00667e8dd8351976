import UiLang.Yaml.Token.Scalar
import UiLang.Yaml.Token.Tag

/-!
# Fetching tokens

The scanner skips blanks, comments and line breaks up to the next token, closes
the block collections the new column leaves, and then reads one token by its
first character.

Tabs count as blanks inside flow collections and where no simple key may start;
elsewhere a tab cannot start a token. A comment after a token on its line is
read with the token, tabs before it included; a run of comment lines is read
together with the blank lines between them.

The parser takes tokens from the head of the queue. The scanner keeps at least
three tokens queued, and more while the head token may still become a simple
key: a key token may have to go in front of it.
-/

namespace UiLang.Yaml

namespace Scanner

/-- Steps over the rest of the line, up to its line break. -/
def skipToBreak : ScanM Unit := do
  for _ in [0:rounds (← get)] do
    ensure 1
    if isBreakOrEnd (← peek) then break
    skip

/-- After a token, reads a comment on the same line, with the blanks before it. -/
def scanLineComment : ScanM Unit := do
  if (← get).newlines == 0 then
    for k in [0:512] do
      ensure (k + 1)
      let c ← peekAt k
      if isBlank c then continue
      if c == '#' then skipToBreak
      break

/-- Reads a comment and the comment lines that follow it, with the blank lines
between them; stops at the line break after the last comment. -/
def scanComments : ScanM Unit := do
  skipToBreak
  for _ in [0:rounds (← get)] do
    -- look past blanks and line breaks for another comment
    let mut next : Option Nat := none
    for k in [1:512] do
      ensure (k + 1)
      let c ← peekAt k
      if isBlank c then continue
      let closesFlow := (← get).flowLevel > 0 && (c == ']' || c == '}')
      if closesFlow || isBreakOrEnd c then
        if !isBreak c then break
        continue
      if c == '#' then next := some k
      break
    match next with
    | none => break
    | some k =>
      let seen := (← get).mark.index + k
      for _ in [0:k + 1] do
        ensure 1
        if (← get).mark.index ≥ seen then break
        if isBreakOrEnd (← peek) then
          ensure 2
          skipLine
        else skip
      skipToBreak

/-- Skips blanks, comments and line breaks up to the next token. A byte order
mark at the start of a line is skipped too. -/
def scanToNextToken : ScanM Unit := do
  for _ in [0:rounds (← get)] do
    ensure 1
    if (← get).mark.column == 0 && isByteOrderMark (← peek) then skip
    ensure 1
    for _ in [0:rounds (← get)] do
      let s ← get
      let c := s.input.get s.mark.index
      if c == ' ' || ((s.flowLevel > 0 || !s.keyAllowed) && c == '\t') then
        skip
        ensure 1
      else break
    if (← peek) == '#' then scanComments
    if isBreak (← peek) then
      ensure 2
      skipLine
      if (← get).flowLevel == 0 then modify fun s => { s with keyAllowed := true }
    else break

/-- The first token. -/
def fetchStreamStart : ScanM Unit := do
  let s ← get
  set { s with
    indent := -1
    keys := s.keys.push default
    keyLevels := []
    keyAllowed := true
    started := true }
  append ⟨.streamStart, s.mark, s.mark⟩

/-- The last token: it closes every block collection. -/
def fetchStreamEnd : ScanM Unit := do
  let s ← get
  if s.mark.column != 0 then
    set { s with mark := { s.mark with column := 0, line := s.mark.line + 1 } }
  unrollIndent (-1) (← get).mark
  removeSimpleKey
  modify fun s => { s with keyAllowed := false }
  let m := (← get).mark
  append ⟨.streamEnd, m, m⟩

/-- A directive. -/
def fetchDirective : ScanM Unit := do
  unrollIndent (-1) (← get).mark
  removeSimpleKey
  modify fun s => { s with keyAllowed := false }
  append (← scanDirective)

/-- A document marker, `---` or `...`. -/
def fetchDocumentIndicator (kind : TokenKind) : ScanM Unit := do
  unrollIndent (-1) (← get).mark
  removeSimpleKey
  modify fun s => { s with keyAllowed := false }
  let start := (← get).mark
  skipN 3
  append ⟨kind, start, (← get).mark⟩

/-- A one-character indicator token at the current place. -/
def fetchIndicator (kind : TokenKind) : ScanM Unit := do
  let start := (← get).mark
  skip
  append ⟨kind, start, (← get).mark⟩

/-- `[` or `{`. -/
def fetchFlowCollectionStart (kind : TokenKind) : ScanM Unit := do
  saveSimpleKey
  increaseFlowLevel
  modify fun s => { s with keyAllowed := true }
  fetchIndicator kind

/-- `]` or `}`. -/
def fetchFlowCollectionEnd (kind : TokenKind) : ScanM Unit := do
  removeSimpleKey
  decreaseFlowLevel
  modify fun s => { s with keyAllowed := false }
  fetchIndicator kind

/-- `,`. -/
def fetchFlowEntry : ScanM Unit := do
  removeSimpleKey
  modify fun s => { s with keyAllowed := true }
  fetchIndicator .flowEntry

/-- `-` before a blank: an entry of a block sequence. -/
def fetchBlockEntry : ScanM Unit := do
  let s ← get
  if s.flowLevel == 0 then
    if !s.keyAllowed then fail s.mark "block sequence entries are not allowed in this context"
    rollIndent s.mark.column none .blockSequenceStart s.mark
  removeSimpleKey
  modify fun s => { s with keyAllowed := true }
  fetchIndicator .blockEntry

/-- `?`: the start of a complex key. -/
def fetchKey : ScanM Unit := do
  let s ← get
  if s.flowLevel == 0 then
    if !s.keyAllowed then fail s.mark "mapping keys are not allowed in this context"
    rollIndent s.mark.column none .blockMappingStart s.mark
  removeSimpleKey
  modify fun s => { s with keyAllowed := s.flowLevel == 0 }
  fetchIndicator .key

/-- `:`: a value. When a simple key is waiting, its key token (and in the block
context the start of a mapping) goes in front of it. -/
def fetchValue : ScanM Unit := do
  let s ← get
  let level := s.keys.size - 1
  if ← keyIsValid level then
    let s ← get
    let k := topKey s
    insertAt (k.number - s.taken) ⟨.key, k.mark, k.mark⟩
    rollIndent k.mark.column (some k.number) .blockMappingStart k.mark
    setTopKey { k with possible := false }
    modify fun s => { s with
      keyLevels := s.keyLevels.filter (·.1 != k.number)
      keyAllowed := false }
  else
    if s.flowLevel == 0 then
      if !s.keyAllowed then fail s.mark "mapping values are not allowed in this context"
      rollIndent s.mark.column none .blockMappingStart s.mark
    modify fun s => { s with keyAllowed := s.flowLevel == 0 }
  fetchIndicator .value

/-- An anchor or an alias. -/
def fetchAnchor (isAlias : Bool) : ScanM Unit := do
  saveSimpleKey
  modify fun s => { s with keyAllowed := false }
  append (← scanAnchor isAlias)

/-- A tag. -/
def fetchTag : ScanM Unit := do
  saveSimpleKey
  modify fun s => { s with keyAllowed := false }
  append (← scanTag)

/-- A block scalar. -/
def fetchBlockScalar (literal : Bool) : ScanM Unit := do
  removeSimpleKey
  modify fun s => { s with keyAllowed := true }
  append (← scanBlockScalar literal)

/-- A quoted scalar. -/
def fetchFlowScalar (single : Bool) : ScanM Unit := do
  saveSimpleKey
  modify fun s => { s with keyAllowed := false }
  append (← scanFlowScalar single)

/-- A plain scalar. -/
def fetchPlainScalar : ScanM Unit := do
  saveSimpleKey
  modify fun s => { s with keyAllowed := false }
  append (← scanPlainScalar)

/-- Whether a character may start a plain scalar, given the one after it. -/
def startsPlain (flow : Bool) (c d : Char) : Bool :=
  !(isBlankOrEnd c || "-?:,[]\x7b\x7d#&*!|>'\"%@`".contains c) ||
    (c == '-' && !isBlank d) ||
    (!flow && (c == '?' || c == ':') && !isBlankOrEnd d)

/-- Reads the token that starts at the current place, after a document marker
or a directive was ruled out; a comment on the rest of its line goes with it,
except after a block entry. -/
def fetchContentToken : ScanM Unit := do
  let s ← get
  let flow := s.flowLevel > 0
  let c ← peekAt 0
  let d ← peekAt 1
  if c == '[' then fetchFlowCollectionStart .flowSequenceStart
  else if c == '{' then fetchFlowCollectionStart .flowMappingStart
  else if c == ']' then fetchFlowCollectionEnd .flowSequenceEnd
  else if c == '}' then fetchFlowCollectionEnd .flowMappingEnd
  else if c == ',' then fetchFlowEntry
  else if c == '-' && isBlankOrEnd d then fetchBlockEntry
  else if c == '?' && (flow || isBlankOrEnd d) then fetchKey
  else if c == ':' && (flow || isBlankOrEnd d) then fetchValue
  else if c == '*' then fetchAnchor true
  else if c == '&' then fetchAnchor false
  else if c == '!' then fetchTag
  else if c == '|' && !flow then fetchBlockScalar true
  else if c == '>' && !flow then fetchBlockScalar false
  else if c == '\'' then fetchFlowScalar true
  else if c == '"' then fetchFlowScalar false
  else if startsPlain flow c d then fetchPlainScalar
  else fail s.mark "found character that cannot start any token"
  if !(c == '-' && isBlankOrEnd d) then scanLineComment

/-- Reads the next token into the queue. -/
def fetchNextToken : ScanM Unit := do
  ensure 1
  if !(← get).started then fetchStreamStart
  else
    let scanMark := (← get).mark
    scanToNextToken
    unrollIndent (← get).mark.column scanMark
    ensure 4
    let s ← get
    let c0 ← peekAt 0
    let c1 ← peekAt 1
    let c2 ← peekAt 2
    let c3 ← peekAt 3
    let atStart := s.mark.column == 0
    if isEnd c0 then fetchStreamEnd
    else if atStart && c0 == '%' then fetchDirective
    else if atStart && c0 == '-' && c1 == '-' && c2 == '-' && isBlankOrEnd c3 then
      fetchDocumentIndicator .documentStart
    else if atStart && c0 == '.' && c1 == '.' && c2 == '.' && isBlankOrEnd c3 then
      fetchDocumentIndicator .documentEnd
    else fetchContentToken

/-- Reads tokens until at least three are queued and the head of the queue can
no longer become a simple key. -/
def fetchMoreTokens : ScanM Unit := do
  for _ in [0:rounds (← get) + 8] do
    let s ← get
    if s.queue.length > 2 then
      match s.keyLevels.lookup s.taken with
      | none => break
      | some level => if !(← keyIsValid level) then break
    fetchNextToken
  modify fun s => { s with available := true }

/-- The token at the head of the queue. -/
def peekToken : ScanM Token := do
  if !(← get).available then fetchMoreTokens
  pure ((← get).queue.headD default)

/-- Takes the token at the head of the queue. -/
def skipToken : ScanM Unit := modify fun s =>
  { s with available := false, taken := s.taken + 1, queue := s.queue.drop 1 }

end Scanner

end UiLang.Yaml
