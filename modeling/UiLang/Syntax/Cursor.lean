import UiLang.Token

/-!
# Reading a token list

The parser reads a token list from the front through a cursor, which holds the
tokens still to read and the errors found so far. Reading never passes an `eof`
token, and reading past the end of the list finds an `eof` token on line `0`.
An error names the line of the token it is about; a token on line `0` stands
for the end of input, so the error takes the line of the list's last token.

Every error is one of the causes below; `ParseProblem.message` gives its text.
-/

namespace UiLang.Syntax

/-- The causes of a parse error. Tokens are those found where something else
was expected. -/
inductive ParseProblem
  | componentAfterVariable
  | expectedDeclaration (got : Token)
  | expectedComponentName (base : String) (got : Token)
  | expectedColon (name : String)
  | trailing (got : Token)
  | expectedCallSeparator (fn : String) (got : Token)
  | misplacedMember (obj prop : String)
  | expectedValue (got : Token)
  | expectedPropertyName (obj : String) (got : Token)
  | expectedOperand (got : Token)
  | emptyList
  | mixedList
  | expectedListSeparator (got : Token)
  | expectedAs (inst : String) (got : Token)
  | expectedVariableName (got : Token)
  | expectedSetting (got : Token)
  | expectedUsage (got : Token)
  deriving DecidableEq, Repr

/-- The text of a parse problem. -/
def ParseProblem.message : ParseProblem → String
  | .componentAfterVariable => "component definitions must come before variable definitions"
  | .expectedDeclaration t =>
    "expected a component definition or variable definition, got " ++ t.describe
  | .expectedComponentName b t => "expected component name after " ++ b ++ ", got " ++ t.describe
  | .expectedColon n => "expected ':' after component " ++ n
  | .trailing t => "unexpected " ++ t.describe ++ " at end of line"
  | .expectedCallSeparator f t => "expected ',' or ')' in call to " ++ f ++ ", got " ++ t.describe
  | .misplacedMember o p =>
    o ++ "." ++ p ++ " can only be used as a function argument or arithmetic term"
  | .expectedValue t => "expected a value, got " ++ t.describe
  | .expectedPropertyName o t => "expected property name after '" ++ o ++ ".', got " ++ t.describe
  | .expectedOperand t => "expected a number or name in arithmetic expression, got " ++ t.describe
  | .emptyList => "empty list"
  | .mixedList => "list mixes values and function calls"
  | .expectedListSeparator t => "expected ',' or ']' in list, got " ++ t.describe
  | .expectedAs i t => "expected AS after " ++ i ++ ", got " ++ t.describe
  | .expectedVariableName t => "expected variable name after AS, got " ++ t.describe
  | .expectedSetting t => "expected 'name = value' after WITH, got " ++ t.describe
  | .expectedUsage t => "expected a component usage, got " ++ t.describe

/-- A parse error: the line it is reported on and its cause. -/
structure ParseError where
  line : Nat
  problem : ParseProblem
  deriving DecidableEq, Repr

/-- The text of a parse error, `line N: ...`. -/
def ParseError.message (e : ParseError) : String :=
  "line " ++ toString e.line ++ ": " ++ e.problem.message

/-- The text of a non-empty list of parse errors, one per line. -/
def ParseError.summary (es : List ParseError) : String :=
  "parse errors:\n  " ++ "\n  ".intercalate (es.map ParseError.message)

/-- The token found past the end of a token list. -/
def endOfInput : Token := ⟨.eof, "", 0, 0⟩

/-- The tokens still to read, the errors found so far, and the line of the last
token of the whole list (`0` for an empty list). -/
structure Cursor where
  rest : List Token
  errors : List ParseError := []
  lastLine : Nat
  deriving Repr

namespace Cursor

/-- A cursor at the start of a token list. -/
def start (ts : List Token) : Cursor :=
  { rest := ts, lastLine := (ts.getLast?.map Token.line).getD 0 }

/-- The token `n` places ahead. -/
def peekAt (c : Cursor) (n : Nat) : Token :=
  (c.rest.drop n).head?.getD endOfInput

/-- The next token. -/
def peek (c : Cursor) : Token := c.peekAt 0

/-- Whether the next token has kind `k`. -/
def check (c : Cursor) (k : TokenKind) : Bool := c.peek.kind == k

/-- Whether the token `n` places ahead has kind `k`. -/
def checkAt (c : Cursor) (n : Nat) (k : TokenKind) : Bool := (c.peekAt n).kind == k

/-- Whether nothing but the end of input is left. -/
def atEnd (c : Cursor) : Bool := c.check .eof

/-- Moves past the next token unless it is `eof`. -/
def skip (c : Cursor) : Cursor :=
  if c.atEnd then c else { c with rest := c.rest.tail }

/-- The next token, and the cursor past it. -/
def advance (c : Cursor) : Token × Cursor := (c.peek, c.skip)

/-- Moves past the next token if it has kind `k`. -/
def accept (c : Cursor) (k : TokenKind) : Option Cursor :=
  if c.check k then some c.skip else none

/-- Records an error about token `t`. -/
def report (c : Cursor) (t : Token) (p : ParseProblem) : Cursor :=
  { c with errors := c.errors ++ [⟨if t.line = 0 then c.lastLine else t.line, p⟩] }

/-- Moves past blank lines. -/
def skipNewlines (c : Cursor) : Cursor :=
  { c with rest := c.rest.dropWhile (·.kind == .newline) }

/-- Moves past the rest of the line and the line end. -/
def skipLine (c : Cursor) : Cursor :=
  let inLine (t : Token) : Bool := t.kind != TokenKind.eof && t.kind != TokenKind.newline
  let c' := { c with rest := c.rest.dropWhile inLine }
  (c'.accept .newline).getD c'

/-- Ends a statement: the end of input, or a line end, which is read. Anything
else is an error about it, and the rest of the line is skipped. -/
def endLine (c : Cursor) : Bool × Cursor :=
  if c.atEnd then (true, c)
  else match c.accept .newline with
  | some c' => (true, c')
  | none => (false, (c.report c.peek (.trailing c.peek)).skipLine)

/-- Whether a call `name(` starts here. -/
def atCall (c : Cursor) : Bool := c.check .identifier && c.checkAt 1 .lparen

/-- Whether `name =` starts here. -/
def atAssignment (c : Cursor) : Bool := c.check .identifier && c.checkAt 1 .equals

end Cursor

end UiLang.Syntax
