import UiLang.Yaml.Token.Queue
import UiLang.Yaml.Event

/-!
# The event parser

The parser reads the grammar of YAML from the token queue and hands out one
event at a time. It is a state machine: the state names what it expects next,
and a stack holds the states to return to when a nested node is done. A second
stack holds where each open collection started, for messages.

A document without `---` is implicit. A `%YAML` directive must name version
1.1; `%TAG` directives name handles for the document they precede, on top of
the primary handle `!` and the secondary handle `!!` (for
`tag:yaml.org,2002:`).
-/

namespace UiLang.Yaml

/-- What the parser expects next. -/
inductive ParseState
  | streamStart
  | implicitDocumentStart
  | documentStart
  | documentContent
  | documentEnd
  | blockNode
  | blockNodeOrIndentlessSequence
  | flowNode
  | blockSequenceFirstEntry
  | blockSequenceEntry
  | indentlessSequenceEntry
  | blockMappingFirstKey
  | blockMappingKey
  | blockMappingValue
  | flowSequenceFirstEntry
  | flowSequenceEntry
  | flowSequenceEntryMappingKey
  | flowSequenceEntryMappingValue
  | flowSequenceEntryMappingEnd
  | flowMappingFirstKey
  | flowMappingKey
  | flowMappingValue
  | flowMappingEmptyValue
  | finished
  deriving Repr, Inhabited, DecidableEq

/-- The parser's state. -/
structure Parser where
  scanner : Scanner
  state : ParseState := .streamStart
  states : List ParseState := []
  marks : List Mark := []
  tagDirectives : List (String × String) := []
  streamEnded : Bool := false
  deriving Inhabited

/-- The parser's computations. -/
abbrev ParseM := StateT Parser (Except Problem)

namespace Parser

/-- The tag directives every document has. -/
def defaultTagDirectives : List (String × String) :=
  [("!", "!"), ("!!", "tag:yaml.org,2002:")]

/-- Runs a scanner computation on the parser's scanner. -/
def scan {α : Type} (m : ScanM α) : ParseM α := do
  let p ← get
  match m.run p.scanner with
  | .ok (a, s) =>
    set { p with scanner := s }
    pure a
  | .error e => throw e

/-- The next token. -/
def peekToken : ParseM Token := scan Scanner.peekToken

/-- Takes the next token. -/
def skipToken : ParseM Unit := do
  let t ← peekToken
  scan Scanner.skipToken
  if t.kind matches .streamEnd then modify fun p => { p with streamEnded := true }

/-- Stops with a parser problem found at `found`. -/
def fail {α : Type} (problem : String) (found : Mark) : ParseM α :=
  throw ⟨.parser, Scanner.noMark, problem, found⟩

/-- Stops with a parser problem found at `found`, in a construct that started at
`context`. -/
def failIn {α : Type} (context : Mark) (problem : String) (found : Mark) : ParseM α :=
  throw ⟨.parser, context, problem, found⟩

/-- Sets the next state. -/
def goTo (s : ParseState) : ParseM Unit := modify fun p => { p with state := s }

/-- Keeps a state to return to. -/
def pushState (s : ParseState) : ParseM Unit := modify fun p => { p with states := s :: p.states }

/-- Returns to the last state kept. -/
def popState : ParseM Unit := modify fun p =>
  match p.states with
  | s :: rest => { p with state := s, states := rest }
  | [] => { p with state := .finished }

/-- Remembers where a collection starts. -/
def pushMark (m : Mark) : ParseM Unit := modify fun p => { p with marks := m :: p.marks }

/-- Forgets where the innermost collection starts, and returns it. -/
def popMark : ParseM Mark := do
  let p ← get
  match p.marks with
  | m :: rest =>
    set { p with marks := rest }
    pure m
  | [] => pure Scanner.noMark

/-- An empty plain scalar at a place. -/
def emptyScalar (m : Mark) : Event := ⟨.scalar none "" "" .plain, m⟩

/-- The first event. -/
def parseStreamStart : ParseM Event := do
  let t ← peekToken
  if !(t.kind matches .streamStart) then fail "did not find expected <stream-start>" t.start
  goTo .implicitDocumentStart
  skipToken
  pure ⟨.streamStart, t.start⟩

/-- Adds a tag directive; a handle named twice is a problem unless `quiet`. -/
def addTagDirective (handle target : String) (quiet : Bool) (m : Mark) : ParseM Unit := do
  let p ← get
  if p.tagDirectives.any (·.1 == handle) then
    if !quiet then fail "found duplicate %TAG directive" m
  else set { p with tagDirectives := p.tagDirectives ++ [(handle, target)] }

/-- Reads the directives before a document, then adds the default handles. -/
def processDirectives : ParseM Unit := do
  let mut version : Option (Nat × Nat) := none
  let mut t ← peekToken
  for _ in [0:(← get).scanner.input.chars.size + 1] do
    match t.kind with
    | .versionDirective major minor =>
      if version.isSome then fail "found duplicate %YAML directive" t.start
      if major != 1 || minor != 1 then fail "found incompatible YAML document" t.start
      version := some (major, minor)
    | .tagDirective handle target => addTagDirective handle target false t.start
    | _ => break
    skipToken
    t ← peekToken
  for (handle, target) in defaultTagDirectives do
    addTagDirective handle target true t.start

/-- The start of a document, or the end of the stream. -/
def parseDocumentStart (implicit : Bool) : ParseM Event := do
  let mut t ← peekToken
  if !implicit then
    for _ in [0:(← get).scanner.input.chars.size + 1] do
      if !(t.kind matches .documentEnd) then break
      skipToken
      t ← peekToken
  if implicit && !(t.kind matches .versionDirective .. | .tagDirective .. | .documentStart | .streamEnd)
  then
    processDirectives
    pushState .documentEnd
    goTo .blockNode
    pure ⟨.documentStart, t.start⟩
  else if !(t.kind matches .streamEnd) then
    let start := t.start
    processDirectives
    let next ← peekToken
    if !(next.kind matches .documentStart) then
      fail "did not find expected <document start>" next.start
    pushState .documentEnd
    goTo .documentContent
    skipToken
    pure ⟨.documentStart, start⟩
  else
    goTo .finished
    skipToken
    pure ⟨.streamEnd, t.start⟩

/-- The end of a document, marked by `...` or not. -/
def parseDocumentEnd : ParseM Event := do
  let t ← peekToken
  if t.kind matches .documentEnd then skipToken
  modify fun p => { p with tagDirectives := [] }
  goTo .documentStart
  pure ⟨.documentEnd, t.start⟩

/-- A node: an alias, or a scalar or collection with its anchor and tag. An
anchor or a tag with nothing after it is an empty scalar. -/
def parseNode (block indentless : Bool) : ParseM Event := do
  let mut t ← peekToken
  match t.kind with
  | .alias name =>
    popState
    skipToken
    pure ⟨.alias name, t.start⟩
  | _ =>
    let mut start := t.start
    let mut anchor : Option String := none
    let mut tagToken : Option (String × String × Mark) := none
    match t.kind with
    | .anchor a =>
      anchor := some a
      skipToken
      t ← peekToken
      match t.kind with
      | .tag h s =>
        tagToken := some (h, s, t.start)
        skipToken
        t ← peekToken
      | _ => pure ()
    | .tag h s =>
      tagToken := some (h, s, t.start)
      skipToken
      t ← peekToken
      match t.kind with
      | .anchor a =>
        anchor := some a
        skipToken
        t ← peekToken
      | _ => pure ()
    | _ => pure ()
    let tag ← match tagToken with
      | none => pure ""
      | some (h, s, m) =>
        if h.isEmpty then pure s
        else
          match (← get).tagDirectives.find? (·.1 == h) with
          | some (_, target) =>
            if (target ++ s).isEmpty then failIn start "found undefined tag handle" m
            else pure (target ++ s)
          | none => failIn start "found undefined tag handle" m
    match t.kind with
    | .blockEntry =>
      if indentless then
        goTo .indentlessSequenceEntry
        pure ⟨.sequenceStart anchor tag false, start⟩
      else if anchor.isSome || !tag.isEmpty then
        popState
        pure ⟨.scalar anchor tag "" .plain, start⟩
      else failIn start "did not find expected node content" t.start
    | .scalar text style =>
      popState
      skipToken
      pure ⟨.scalar anchor tag text style, start⟩
    | .flowSequenceStart =>
      goTo .flowSequenceFirstEntry
      pure ⟨.sequenceStart anchor tag true, start⟩
    | .flowMappingStart =>
      goTo .flowMappingFirstKey
      pure ⟨.mappingStart anchor tag true, start⟩
    | _ =>
      if block && t.kind matches .blockSequenceStart then
        goTo .blockSequenceFirstEntry
        pure ⟨.sequenceStart anchor tag false, start⟩
      else if block && t.kind matches .blockMappingStart then
        goTo .blockMappingFirstKey
        pure ⟨.mappingStart anchor tag false, start⟩
      else if anchor.isSome || !tag.isEmpty then
        popState
        pure ⟨.scalar anchor tag "" .plain, start⟩
      else failIn start "did not find expected node content" t.start

/-- The content of an explicit document, which may be empty. -/
def parseDocumentContent : ParseM Event := do
  let t ← peekToken
  if t.kind matches .versionDirective .. | .tagDirective .. | .documentStart | .documentEnd | .streamEnd
  then
    popState
    pure (emptyScalar t.start)
  else parseNode true false

/-- An entry of a block sequence, or its end. -/
def parseBlockSequenceEntry (first : Bool) : ParseM Event := do
  if first then
    let t ← peekToken
    pushMark t.start
    skipToken
  let t ← peekToken
  match t.kind with
  | .blockEntry =>
    let m := t.stop
    skipToken
    let t ← peekToken
    if !(t.kind matches .blockEntry | .blockEnd) then
      pushState .blockSequenceEntry
      parseNode true false
    else
      goTo .blockSequenceEntry
      pure (emptyScalar m)
  | .blockEnd =>
    popState
    let _ ← popMark
    skipToken
    pure ⟨.sequenceEnd, t.start⟩
  | _ =>
    let context ← popMark
    failIn context "did not find expected '-' indicator" t.start

/-- An entry of a sequence written at the indentation of its mapping, or its
end. -/
def parseIndentlessSequenceEntry : ParseM Event := do
  let t ← peekToken
  match t.kind with
  | .blockEntry =>
    let m := t.stop
    skipToken
    let t ← peekToken
    if !(t.kind matches .blockEntry | .key | .value | .blockEnd) then
      pushState .indentlessSequenceEntry
      parseNode true false
    else
      goTo .indentlessSequenceEntry
      pure (emptyScalar m)
  | _ =>
    popState
    pure ⟨.sequenceEnd, t.start⟩

/-- A key of a block mapping, or its end. -/
def parseBlockMappingKey (first : Bool) : ParseM Event := do
  if first then
    let t ← peekToken
    pushMark t.start
    skipToken
  let t ← peekToken
  match t.kind with
  | .key =>
    let m := t.stop
    skipToken
    let t ← peekToken
    if !(t.kind matches .key | .value | .blockEnd) then
      pushState .blockMappingValue
      parseNode true true
    else
      goTo .blockMappingValue
      pure (emptyScalar m)
  | .blockEnd =>
    popState
    let _ ← popMark
    skipToken
    pure ⟨.mappingEnd, t.start⟩
  | _ =>
    let context ← popMark
    failIn context "did not find expected key" t.start

/-- A value of a block mapping; a missing one is empty. -/
def parseBlockMappingValue : ParseM Event := do
  let t ← peekToken
  match t.kind with
  | .value =>
    let m := t.stop
    skipToken
    let t ← peekToken
    if !(t.kind matches .key | .value | .blockEnd) then
      pushState .blockMappingKey
      parseNode true true
    else
      goTo .blockMappingKey
      pure (emptyScalar m)
  | _ =>
    goTo .blockMappingKey
    pure (emptyScalar t.start)

/-- An entry of a flow sequence, or its end. An entry that starts with `?` is
a mapping of one pair. -/
def parseFlowSequenceEntry (first : Bool) : ParseM Event := do
  if first then
    let t ← peekToken
    pushMark t.start
    skipToken
  let mut t ← peekToken
  if !(t.kind matches .flowSequenceEnd) then
    if !first then
      if t.kind matches .flowEntry then
        skipToken
        t ← peekToken
      else
        let context ← popMark
        failIn context "did not find expected ',' or ']'" t.start
    if t.kind matches .key then
      goTo .flowSequenceEntryMappingKey
      skipToken
      return ⟨.mappingStart none "" true, t.start⟩
    else if !(t.kind matches .flowSequenceEnd) then
      pushState .flowSequenceEntry
      return ← parseNode false false
  popState
  let _ ← popMark
  skipToken
  pure ⟨.sequenceEnd, t.start⟩

/-- The key of a one-pair mapping in a flow sequence. -/
def parseFlowSequenceEntryMappingKey : ParseM Event := do
  let t ← peekToken
  if !(t.kind matches .value | .flowEntry | .flowSequenceEnd) then
    pushState .flowSequenceEntryMappingValue
    parseNode false false
  else
    let m := t.stop
    skipToken
    goTo .flowSequenceEntryMappingValue
    pure (emptyScalar m)

/-- The value of a one-pair mapping in a flow sequence. -/
def parseFlowSequenceEntryMappingValue : ParseM Event := do
  let t ← peekToken
  if t.kind matches .value then
    skipToken
    let t ← peekToken
    if !(t.kind matches .flowEntry | .flowSequenceEnd) then
      pushState .flowSequenceEntryMappingEnd
      return ← parseNode false false
    goTo .flowSequenceEntryMappingEnd
    return emptyScalar t.start
  goTo .flowSequenceEntryMappingEnd
  pure (emptyScalar t.start)

/-- The end of a one-pair mapping in a flow sequence. -/
def parseFlowSequenceEntryMappingEnd : ParseM Event := do
  goTo .flowSequenceEntry
  pure ⟨.mappingEnd, (← get).scanner.mark⟩

/-- A key of a flow mapping, or its end. -/
def parseFlowMappingKey (first : Bool) : ParseM Event := do
  if first then
    let t ← peekToken
    pushMark t.start
    skipToken
  let mut t ← peekToken
  if !(t.kind matches .flowMappingEnd) then
    if !first then
      if t.kind matches .flowEntry then
        skipToken
        t ← peekToken
      else
        let context ← popMark
        failIn context "did not find expected ',' or '\x7d'" t.start
    if t.kind matches .key then
      skipToken
      let next ← peekToken
      if !(next.kind matches .value | .flowEntry | .flowMappingEnd) then
        pushState .flowMappingValue
        return ← parseNode false false
      goTo .flowMappingValue
      return emptyScalar next.start
    else if !(t.kind matches .flowMappingEnd) then
      pushState .flowMappingEmptyValue
      return ← parseNode false false
  popState
  let _ ← popMark
  skipToken
  pure ⟨.mappingEnd, t.start⟩

/-- A value of a flow mapping; with `empty` (a key without `?` or `:`), an empty
one. -/
def parseFlowMappingValue (empty : Bool) : ParseM Event := do
  let t ← peekToken
  if empty then
    goTo .flowMappingKey
    return emptyScalar t.start
  if t.kind matches .value then
    skipToken
    let t ← peekToken
    if !(t.kind matches .flowEntry | .flowMappingEnd) then
      pushState .flowMappingKey
      return ← parseNode false false
    goTo .flowMappingKey
    return emptyScalar t.start
  goTo .flowMappingKey
  pure (emptyScalar t.start)

/-- The next event, or `none` after the end of the stream. -/
def nextEvent : ParseM (Option Event) := do
  let p ← get
  if p.streamEnded then return none
  match p.state with
  | .finished => pure none
  | .streamStart => some <$> parseStreamStart
  | .implicitDocumentStart => some <$> parseDocumentStart true
  | .documentStart => some <$> parseDocumentStart false
  | .documentContent => some <$> parseDocumentContent
  | .documentEnd => some <$> parseDocumentEnd
  | .blockNode => some <$> parseNode true false
  | .blockNodeOrIndentlessSequence => some <$> parseNode true true
  | .flowNode => some <$> parseNode false false
  | .blockSequenceFirstEntry => some <$> parseBlockSequenceEntry true
  | .blockSequenceEntry => some <$> parseBlockSequenceEntry false
  | .indentlessSequenceEntry => some <$> parseIndentlessSequenceEntry
  | .blockMappingFirstKey => some <$> parseBlockMappingKey true
  | .blockMappingKey => some <$> parseBlockMappingKey false
  | .blockMappingValue => some <$> parseBlockMappingValue
  | .flowSequenceFirstEntry => some <$> parseFlowSequenceEntry true
  | .flowSequenceEntry => some <$> parseFlowSequenceEntry false
  | .flowSequenceEntryMappingKey => some <$> parseFlowSequenceEntryMappingKey
  | .flowSequenceEntryMappingValue => some <$> parseFlowSequenceEntryMappingValue
  | .flowSequenceEntryMappingEnd => some <$> parseFlowSequenceEntryMappingEnd
  | .flowMappingFirstKey => some <$> parseFlowMappingKey true
  | .flowMappingKey => some <$> parseFlowMappingKey false
  | .flowMappingValue => some <$> parseFlowMappingValue false
  | .flowMappingEmptyValue => some <$> parseFlowMappingValue true

end Parser

end UiLang.Yaml
