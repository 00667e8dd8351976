import UiLang.Syntax.Tree
import UiLang.Syntax.Cursor
import UiLang.Token.Scan

/-!
# Parsing definition and view files

A recursive-descent parser that recovers from errors. A statement that fails
to parse is reported and dropped, the rest of its line is skipped, and parsing
goes on with the next line; the tree keeps every statement that parsed.

Every loop reads at least one token per round and stops if a round reads none,
so parsing is total on every token list.
-/

namespace UiLang.Syntax

open Cursor

/-- An operand: a number, a name, or `X.y`. -/
def parseOperand (c : Cursor) : Option Operand × Cursor :=
  let tok := c.peek
  match tok.kind with
  | .number => (some (.number tok), c.skip)
  | .identifier =>
    let c1 := c.skip
    match c1.accept .dot with
    | none => (some (.name tok), c1)
    | some c2 =>
      if c2.check .identifier then
        let (prop, c3) := c2.advance
        (some (.member tok prop), c3)
      else (none, c2.report c2.peek (.expectedPropertyName tok.text c2.peek))
  | _ => (none, c.report tok (.expectedOperand tok))

/-- The `op operand` steps of an arithmetic expression, after `acc`. -/
def parseSteps (c : Cursor) (acc : List (Token × Operand)) :
    Option (List (Token × Operand)) × Cursor :=
  if c.check .arithOp then
    let (op, c1) := c.advance
    match parseOperand c1 with
    | (none, c2) => (none, c2)
    | (some t, c2) =>
      if c2.rest.length < c.rest.length then parseSteps c2 (acc ++ [(op, t)])
      else (some (acc ++ [(op, t)]), c2)
  else (some acc, c)
  termination_by c.rest.length

/-- A value: a string, a boolean, a number, a name, or arithmetic. A lone `X.y`
is an error here. -/
def parseScalar (c : Cursor) : Option Scalar × Cursor :=
  let tok := c.peek
  match tok.kind with
  | .string => (some (.string tok), c.skip)
  | .boolean => (some (.boolean tok), c.skip)
  | .number | .identifier =>
    match parseOperand c with
    | (none, c1) => (none, c1)
    | (some first, c1) =>
      if c1.check .arithOp then
        match parseSteps c1 [] with
        | (some steps, c2) => (some (.arith first steps), c2)
        | (none, c2) => (none, c2)
      else match first with
        | .number t => (some (.number t), c1)
        | .name t => (some (.name t), c1)
        | .member o p => (none, c1.report tok (.misplacedMember o.text p.text))
  | _ => (none, c.report tok (.expectedValue tok))

/-- A call argument. `X.y` not followed by an operator is a member, or a view
when `y` is `view`; anything else is a value. -/
def parseArg (c : Cursor) : Option Arg × Cursor :=
  if c.check .identifier && c.checkAt 1 .dot && c.checkAt 2 .identifier &&
      !c.checkAt 3 .arithOp then
    let (obj, c1) := c.advance
    let (prop, c2) := c1.skip.advance
    if prop.text == "view" then (some (.view obj), c2) else (some (.member obj prop), c2)
  else
    match parseScalar c with
    | (some v, c1) => (some (.value v), c1)
    | (none, c1) => (none, c1)

/-- The arguments of a call to `fn` after `acc`, through the closing `)`. -/
def parseArgs (fn : Token) (c : Cursor) (acc : List Arg) : Option (List Arg) × Cursor :=
  match parseArg c with
  | (none, c1) => (none, c1)
  | (some a, c1) =>
    match c1.accept .comma with
    | some c2 =>
      if c2.rest.length < c.rest.length then parseArgs fn c2 (acc ++ [a])
      else (some (acc ++ [a]), c2)
    | none =>
      match c1.accept .rparen with
      | some c2 => (some (acc ++ [a]), c2)
      | none => (none, c1.report c1.peek (.expectedCallSeparator fn.text c1.peek))
  termination_by c.rest.length

/-- A call `name(arg, ...)`; the cursor stands at `name`, before `(`. -/
def parseCall (c : Cursor) : Option Call × Cursor :=
  let (name, c1) := c.advance
  let c2 := c1.skip
  match c2.accept .rparen with
  | some c3 => (some ⟨name, []⟩, c3)
  | none =>
    match parseArgs name c2 [] with
    | (some args, c3) => (some ⟨name, args⟩, c3)
    | (none, c3) => (none, c3)

/-- The items of a list after `vs` or `fs` (one of them empty), through the
closing `]`. -/
def parseItems (c : Cursor) (vs : List Scalar) (fs : List Call) : Option Items × Cursor :=
  let round : Option (List Scalar × List Call) × Cursor :=
    if c.atCall then
      if vs.isEmpty then
        match parseCall c with
        | (some f, c1) => (some (vs, fs ++ [f]), c1)
        | (none, c1) => (none, c1)
      else (none, c.report c.peek .mixedList)
    else if fs.isEmpty then
      match parseScalar c with
      | (some v, c1) => (some (vs ++ [v], fs), c1)
      | (none, c1) => (none, c1)
    else (none, c.report c.peek .mixedList)
  match round with
  | (none, c1) => (none, c1)
  | (some (vs', fs'), c1) =>
    let items : Items := if fs'.isEmpty then .values vs' else .calls fs'
    match c1.accept .comma with
    | some c2 =>
      match c2.accept .rbracket with
      | some c3 => (some items, c3)
      | none =>
        if c2.rest.length < c.rest.length then parseItems c2 vs' fs' else (some items, c2)
    | none =>
      match c1.accept .rbracket with
      | some c2 => (some items, c2)
      | none => (none, c1.report c1.peek (.expectedListSeparator c1.peek))
  termination_by c.rest.length

/-- A list `[item, ...]`; the cursor stands at `[`. An empty list is an error,
reported at `[`, and its `]` is read. -/
def parseList (c : Cursor) : Option Items × Cursor :=
  let (opening, c1) := c.advance
  if c1.check .rbracket then (none, (c1.report opening .emptyList).skip)
  else parseItems c1 [] []

/-- The right side of a property line: a list, a call, or a value. -/
def parseRhs (c : Cursor) : Option Rhs × Cursor :=
  if c.check .lbracket then
    match parseList c with
    | (some items, c1) => (some (.list items), c1)
    | (none, c1) => (none, c1)
  else if c.atCall then
    match parseCall c with
    | (some f, c1) => (some (.call f), c1)
    | (none, c1) => (none, c1)
  else
    match parseScalar c with
    | (some v, c1) => (some (.value v), c1)
    | (none, c1) => (none, c1)

/-- A property line `name = rhs`, ended by a line end. -/
def parsePropertyLine (c : Cursor) : Option PropertyLine × Cursor :=
  let (name, c1) := c.advance
  match parseRhs c1.skip with
  | (none, c2) => (none, c2.skipLine)
  | (some rhs, c2) =>
    match c2.endLine with
    | (true, c3) => (some ⟨name, rhs⟩, c3)
    | (false, c3) => (none, c3)

/-- The property lines of a component body after `acc`: every following line
of the form `name = ...`, blank lines skipped. -/
def parseBody (c : Cursor) (acc : List PropertyLine) : List PropertyLine × Cursor :=
  let c0 := c.skipNewlines
  if c0.atAssignment then
    let (line?, c1) := parsePropertyLine c0
    let acc' := acc ++ line?.toList
    if c1.rest.length < c.rest.length then parseBody c1 acc' else (acc', c1)
  else (acc, c0)
  termination_by c.rest.length

/-- A component declaration `BASE Name:` and its body; the cursor stands at the
base keyword. -/
def parseComponent (c : Cursor) : Option ComponentDecl × Cursor :=
  let (base, c1) := c.advance
  if c1.check .identifier then
    let (name, c2) := c1.advance
    match c2.accept .colon with
    | none => (none, (c2.report c2.peek (.expectedColon name.text)).skipLine)
    | some c3 =>
      match c3.endLine with
      | (false, c4) => (none, c4)
      | (true, c4) =>
        let (props, c5) := parseBody c4 []
        (some ⟨base, name, props⟩, c5)
  else (none, (c1.report c1.peek (.expectedComponentName base.text c1.peek)).skipLine)

/-- A setting `name = list` or `name = value` of an instance. -/
def parseSetting (c : Cursor) : Option (Token × Setting) × Cursor :=
  let (name, c1) := c.advance
  let c2 := c1.skip
  if c2.check .lbracket then
    match parseList c2 with
    | (some items, c3) => (some (name, .list items), c3)
    | (none, c3) => (none, c3)
  else
    match parseScalar c2 with
    | (some v, c3) => (some (name, .value v), c3)
    | (none, c3) => (none, c3)

/-- The settings after `WITH`, after `acc`, separated by commas. -/
def parseSettings (c : Cursor) (acc : List (Token × Setting)) :
    Option (List (Token × Setting)) × Cursor :=
  if c.atAssignment then
    match parseSetting c with
    | (none, c1) => (none, c1)
    | (some s, c1) =>
      match c1.accept .comma with
      | none => (some (acc ++ [s]), c1)
      | some c2 =>
        if c2.rest.length < c.rest.length then parseSettings c2 (acc ++ [s])
        else (some (acc ++ [s]), c2)
  else (none, c.report c.peek (.expectedSetting c.peek))
  termination_by c.rest.length

/-- An instance `Comp` or `Comp WITH settings`; the cursor stands at `Comp`. -/
def parseInstance (c : Cursor) : Option Instance × Cursor :=
  let (name, c1) := c.advance
  match c1.accept .withKw with
  | none => (some ⟨name, []⟩, c1)
  | some c2 =>
    match parseSettings c2 [] with
    | (some ss, c3) => (some ⟨name, ss⟩, c3)
    | (none, c3) => (none, c3)

/-- A variable declaration `instance AS name`, ended by a line end. -/
def parseVariable (c : Cursor) : Option VariableDecl × Cursor :=
  match parseInstance c with
  | (none, c1) => (none, c1.skipLine)
  | (some inst, c1) =>
    match c1.accept .asKw with
    | none => (none, (c1.report c1.peek (.expectedAs inst.name.text c1.peek)).skipLine)
    | some c2 =>
      if c2.check .identifier then
        let (name, c3) := c2.advance
        match c3.endLine with
        | (true, c4) => (some ⟨inst, name⟩, c4)
        | (false, c4) => (none, c4)
      else (none, (c2.report c2.peek (.expectedVariableName c2.peek)).skipLine)

/-- The declarations of a definition file after `acc`. -/
def parseDecls (c : Cursor) (acc : DefFile) : DefFile × Cursor :=
  if c.atEnd then (acc, c)
  else
    let (acc', c1) : DefFile × Cursor :=
      match c.peek.kind with
      | .baseComponent =>
        let c0 := if acc.vars.isEmpty then c else c.report c.peek .componentAfterVariable
        let (comp?, c1) := parseComponent c0
        ({ acc with components := acc.components ++ comp?.toList }, c1)
      | .identifier =>
        let (var?, c1) := parseVariable c
        ({ acc with vars := acc.vars ++ var?.toList }, c1)
      | _ => (acc, (c.report c.peek (.expectedDeclaration c.peek)).skipLine)
    let c2 := c1.skipNewlines
    if c2.rest.length < c.rest.length then parseDecls c2 acc' else (acc', c2)
  termination_by c.rest.length

/-- The usages of a view file after `acc`. -/
def parseUsages (c : Cursor) (acc : List Usage) : List Usage × Cursor :=
  if c.atEnd then (acc, c)
  else
    let (acc', c1) : List Usage × Cursor :=
      if !c.check .identifier then
        (acc, (c.report c.peek (.expectedUsage c.peek)).skipLine)
      else if c.checkAt 1 .withKw then
        match parseInstance c with
        | (none, c1) => (acc, c1.skipLine)
        | (some inst, c1) =>
          match c1.endLine with
          | (true, c2) => (acc ++ [.inst inst], c2)
          | (false, c2) => (acc, c2)
      else
        let (tok, c1) := c.advance
        match c1.endLine with
        | (true, c2) => (acc ++ [.name tok], c2)
        | (false, c2) => (acc, c2)
    let c2 := c1.skipNewlines
    if c2.rest.length < c.rest.length then parseUsages c2 acc' else (acc', c2)
  termination_by c.rest.length

/-- A definition file's tree from its tokens, with the errors found. -/
def DefFile.ofTokens (ts : List Token) : DefFile × List ParseError :=
  let (d, c) := parseDecls (Cursor.start ts).skipNewlines {}
  (d, c.errors)

/-- A view file's tree from its tokens, with the errors found. -/
def ViewFile.ofTokens (ts : List Token) : ViewFile × List ParseError :=
  let (us, c) := parseUsages (Cursor.start ts).skipNewlines []
  (⟨us⟩, c.errors)

/-- Why source text is not a well-formed file: a scanning error, or parse
errors together with the partial tree. -/
inductive SourceError (α : Type)
  | scan (e : LexError)
  | parse (partialTree : α) (errors : List ParseError)

/-- The text of a source error. -/
def SourceError.message {α : Type} : SourceError α → String
  | .scan e => "lexer error: " ++ e.message
  | .parse _ es => ParseError.summary es

/-- A definition file read from source text. -/
def DefFile.parse (source : String) : Except (SourceError DefFile) DefFile :=
  match Token.scan source with
  | .error e => .error (.scan e)
  | .ok ts =>
    match DefFile.ofTokens ts with
    | (d, []) => .ok d
    | (d, es) => .error (.parse d es)

/-- A view file read from source text. -/
def ViewFile.parse (source : String) : Except (SourceError ViewFile) ViewFile :=
  match Token.scan source with
  | .error e => .error (.scan e)
  | .ok ts =>
    match ViewFile.ofTokens ts with
    | (v, []) => .ok v
    | (v, es) => .error (.parse v es)

end UiLang.Syntax
