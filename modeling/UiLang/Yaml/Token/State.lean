import UiLang.Yaml.Input
import UiLang.Yaml.Token

/-!
# The scanner's state

The scanner reads the text one character at a time and keeps a queue of tokens
the parser has not taken yet. Block collections have no indicator of their own
in the text: the scanner keeps a stack of indentation columns and puts the
start of a block collection into the queue when a line is indented further, and
its end when a line is indented less.

A mapping key needs no indicator either: a scalar, an anchor, a tag or a flow
collection may turn out to be a key when a `:` follows it on the same line,
within 1024 characters. Such a place is a *simple key*: the scanner remembers
it, one per flow level, with the number the token there will have, and puts a
key token (and, in the block context, the start of a mapping) in front of that
token when the `:` comes. A simple key at the indentation column of a block
mapping is *required*: if no `:` comes, the text is not well formed.

The scanner asks the reader for characters ahead of its place before it looks
at them (`ensure`); that is when the reader's problem shows.
-/

namespace UiLang.Yaml

/-- A place that may start a simple key. -/
structure SimpleKey where
  possible : Bool
  required : Bool
  number : Nat
  mark : Mark
  deriving Repr, Inhabited

/-- The scanner's state. -/
structure Scanner where
  input : Input
  mark : Mark := ⟨0, 0, 0⟩
  /-- Tokens not yet taken by the parser, the next one first. -/
  queue : List Token := []
  /-- How many tokens the parser has taken. -/
  taken : Nat := 0
  started : Bool := false
  indent : Int := -1
  indents : List Int := []
  flowLevel : Nat := 0
  keyAllowed : Bool := false
  /-- The simple key of each flow level, the innermost last. -/
  keys : Array SimpleKey := #[]
  /-- For the token number of a simple key, the flow level it was saved at. -/
  keyLevels : List (Nat × Nat) := []
  /-- Line breaks read since the last character that is not blank. -/
  newlines : Nat := 0
  /-- Whether the head of the queue is ready for the parser. -/
  available : Bool := false
  deriving Inhabited

/-- The scanner's computations: they change its state or stop with a problem. -/
abbrev ScanM := StateT Scanner (Except Problem)

namespace Scanner

/-- Enough rounds for a loop that reads at least one character a round. -/
def rounds (s : Scanner) : Nat := s.input.chars.size + 8

/-- The most nested flow collections and block indentation levels. -/
def maxDepth : Nat := 10000

/-- A place where nothing was read. -/
def noMark : Mark := ⟨0, 0, 0⟩

/-- Stops with a scanner problem: the context started at `context`, the problem
is found at the current place. -/
def fail {α : Type} (context : Mark) (problem : String) : ScanM α := do
  throw ⟨.scanner, context, problem, (← get).mark⟩

/-- Asks the reader for `n` characters from the current place. -/
def ensure (n : Nat) : ScanM Unit := do
  let s ← get
  match s.input.limit with
  | some l =>
    if s.mark.index + n > l then throw ⟨.reader, noMark, "control characters are not allowed", noMark⟩
  | none => pure ()

/-- The character `k` places ahead. -/
def peekAt (k : Nat) : ScanM Char := do
  let s ← get
  pure (s.input.get (s.mark.index + k))

/-- The character at the current place. -/
def peek : ScanM Char := peekAt 0

/-- Steps over one character that is not a line break. -/
def skip : ScanM Unit := modify fun s =>
  let c := s.input.get s.mark.index
  { s with
    newlines := if isBlank c then s.newlines else 0
    mark := ⟨s.mark.index + 1, s.mark.line, s.mark.column + 1⟩ }

/-- Steps over `n` characters that are not line breaks. -/
def skipN : Nat → ScanM Unit
  | 0 => pure ()
  | n + 1 => do skip; skipN n

/-- Steps over a line break; a carriage return before a line feed is one break. -/
def skipLine : ScanM Unit := modify fun s =>
  let c := s.input.get s.mark.index
  let d := s.input.get (s.mark.index + 1)
  if c == '\r' && d == '\n' then
    { s with mark := ⟨s.mark.index + 2, s.mark.line + 1, 0⟩, newlines := s.newlines + 1 }
  else if isBreak c then
    { s with mark := ⟨s.mark.index + 1, s.mark.line + 1, 0⟩, newlines := s.newlines + 1 }
  else s

/-- Steps over one character that is not a line break and adds it to `acc`. -/
def read (acc : String) : ScanM String := do
  let c ← peek
  skip
  pure (acc.push c)

/-- Steps over a line break and adds it to `acc`: a line feed for a carriage
return, a line feed, both, or a next line; a line or paragraph separator as it
is. -/
def readLine (acc : String) : ScanM String := do
  let s ← get
  let c := s.input.get s.mark.index
  let d := s.input.get (s.mark.index + 1)
  let (step, text) :=
    if c == '\r' && d == '\n' then (2, "\n")
    else if c == '\r' || c == '\n' || c == '\u0085' then (1, "\n")
    else if c == '\u2028' || c == '\u2029' then (1, String.singleton c)
    else (0, "")
  if step == 0 then pure acc
  else
    set { s with mark := ⟨s.mark.index + step, s.mark.line + 1, 0⟩, newlines := s.newlines + 1 }
    pure (acc ++ text)

/-! ## The token queue -/

/-- The number the next token put at the end of the queue will have. -/
def nextNumber : ScanM Nat := do
  let s ← get
  pure (s.taken + s.queue.length)

/-- Puts a token at the end of the queue. -/
def append (t : Token) : ScanM Unit := modify fun s => { s with queue := s.queue ++ [t] }

/-- Puts a token at a place in the queue, counted from its head. -/
def insertAt (pos : Nat) (t : Token) : ScanM Unit := modify fun s =>
  { s with queue := s.queue.take pos ++ t :: s.queue.drop pos }

/-! ## Simple keys -/

/-- The simple key of the innermost flow level. -/
def topKey (s : Scanner) : SimpleKey := s.keys.back?.getD default

/-- Sets the simple key of the innermost flow level. -/
def setTopKey (k : SimpleKey) : ScanM Unit := modify fun s =>
  { s with keys := s.keys.set! (s.keys.size - 1) k }

/-- Whether the simple key of a flow level can still be a key: it must be on
the current line and less than 1024 characters back. A key that cannot is no
longer possible, and it is a problem when it was required. -/
def keyIsValid (level : Nat) : ScanM Bool := do
  let s ← get
  let k := s.keys.getD level default
  if !k.possible then pure false
  else if k.mark.line < s.mark.line || k.mark.index + 1024 < s.mark.index then
    if k.required then fail k.mark "could not find expected ':'"
    else
      modify fun s => { s with keys := s.keys.set! level { k with possible := false } }
      pure false
  else pure true

/-- Forgets the simple key of the innermost flow level; a required one is a
problem. -/
def removeSimpleKey : ScanM Unit := do
  let s ← get
  let k := topKey s
  if k.possible then
    if k.required then fail k.mark "could not find expected ':'"
    else
      setTopKey { k with possible := false }
      modify fun s => { s with keyLevels := s.keyLevels.filter (·.1 != k.number) }

/-- Remembers the current place as a simple key, when a key may start here. It
is required in the block context at the indentation column. -/
def saveSimpleKey : ScanM Unit := do
  let s ← get
  if s.keyAllowed then
    let required := s.flowLevel == 0 && s.indent == (s.mark.column : Int)
    let k : SimpleKey := ⟨true, required, ← nextNumber, s.mark⟩
    removeSimpleKey
    setTopKey k
    modify fun s => { s with
      keyLevels := (k.number, s.keys.size - 1) :: s.keyLevels.filter (·.1 != k.number) }

/-- Enters a flow collection. -/
def increaseFlowLevel : ScanM Unit := do
  let s ← get
  set { s with keys := s.keys.push ⟨false, false, 0, s.mark⟩, flowLevel := s.flowLevel + 1 }
  if s.flowLevel + 1 > maxDepth then
    fail s.mark ("exceeded max depth of " ++ toString maxDepth)

/-- Leaves a flow collection. -/
def decreaseFlowLevel : ScanM Unit := do
  let s ← get
  if s.flowLevel > 0 then
    let k := topKey s
    set { s with
      flowLevel := s.flowLevel - 1
      keyLevels := s.keyLevels.filter (·.1 != k.number)
      keys := s.keys.pop }

/-! ## Indentation -/

/-- In the block context, opens a block collection at `column` when it is
indented further than the current level: the start token goes in at token
number `number`, or at the end of the queue. -/
def rollIndent (column : Nat) (number : Option Nat) (kind : TokenKind) (mark : Mark) :
    ScanM Unit := do
  let s ← get
  if s.flowLevel == 0 && s.indent < (column : Int) then
    set { s with indents := s.indent :: s.indents, indent := column }
    if s.indents.length + 1 > maxDepth then
      fail (topKey s).mark ("exceeded max depth of " ++ toString maxDepth)
    let t : Token := ⟨kind, mark, mark⟩
    match number with
    | some n => insertAt (n - s.taken) t
    | none => append t

/-- In the block context, closes every block collection indented further than
`column`. -/
def unrollIndent (column : Int) (mark : Mark) : ScanM Unit := do
  let s ← get
  if s.flowLevel == 0 then
    let m : Mark := { mark with index := mark.index - 1 }
    for _ in [0:s.indents.length + 1] do
      let s ← get
      if s.indent > column then
        match s.indents with
        | i :: rest => set { s with indent := i, indents := rest }
        | [] => set { s with indent := -1 }
        append ⟨.blockEnd, m, m⟩

end Scanner

end UiLang.Yaml
