/-!
# Tokens of YAML text

The scanner cuts YAML text into tokens: indicators, scalars, anchors, tags and
directives, and the implied starts and ends of block collections. Each token
carries the places where it starts and stops. A place counts characters from
the start of the text, and lines and columns from 0.

A problem stops the reading. It is the reader's, the scanner's or the parser's,
and names the problem and the two places it belongs to: where the construct
being read started (its context), and where the problem was found.
-/

namespace UiLang.Yaml

/-- A place in the text: the characters before it, its line and its column,
all from 0. -/
structure Mark where
  index : Nat
  line : Nat
  column : Nat
  deriving Repr, Inhabited, DecidableEq

/-- How a scalar is written. -/
inductive ScalarStyle
  | plain
  | singleQuoted
  | doubleQuoted
  | literal
  | folded
  deriving Repr, Inhabited, DecidableEq

/-- What a token is. -/
inductive TokenKind
  | streamStart
  | streamEnd
  | versionDirective (major minor : Nat)
  | tagDirective (handle target : String)
  | documentStart
  | documentEnd
  | blockSequenceStart
  | blockMappingStart
  | blockEnd
  | flowSequenceStart
  | flowSequenceEnd
  | flowMappingStart
  | flowMappingEnd
  | blockEntry
  | flowEntry
  | key
  | value
  | alias (name : String)
  | anchor (name : String)
  | tag (handle suffix : String)
  | scalar (text : String) (style : ScalarStyle)
  deriving Repr, Inhabited, DecidableEq

/-- A token and the places where it starts and stops. -/
structure Token where
  kind : TokenKind
  start : Mark
  stop : Mark
  deriving Repr, Inhabited

/-- Whose problem stopped the reading. -/
inductive Stage
  | reader
  | scanner
  | parser
  deriving Repr, Inhabited, DecidableEq

/-- A problem that stops the reading. -/
structure Problem where
  stage : Stage
  context : Mark
  problem : String
  found : Mark
  deriving Repr, Inhabited

/-- The line a problem names, from 1, or `0` for none: the line of its context,
or else of the place it was found; a line `0` (the first) counts as none. The
scanner's lines are counted from 1 and the parser's from 0. -/
def Problem.line (p : Problem) : Nat :=
  let shift := if p.stage == .scanner then 1 else 0
  if p.context.line != 0 then p.context.line + shift
  else if p.found.line != 0 then p.found.line + shift
  else 0

/-- `yaml: line N: problem`, or `yaml: problem` when no line is named. -/
def Problem.message (p : Problem) : String :=
  "yaml: " ++ (if p.line == 0 then "" else "line " ++ toString p.line ++ ": ") ++ p.problem

end UiLang.Yaml
