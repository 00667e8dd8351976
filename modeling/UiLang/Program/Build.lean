import UiLang.Program.Basic
import UiLang.Syntax.Tree
import UiLang.Text.Quoted

/-!
# From syntax trees to programs

Building a program from syntax trees reads numbers, drops the quotes of
strings, resolves function names and operators, and infers each component's
parameters. It refuses three things: a number literal that `strconv.Atoi`
refuses (not a signed decimal, or outside the 64-bit signed range), an operator
symbol it does not know, and a list with no items. The first refusal in reading
order is reported, with the component and property, the variable, or the view it
was written in; in arithmetic every term is read before the operators.

A component's parameters are the names it reads without declaring them: every
name used as a value, list item, call argument or operand, and the component of
every member `X.y` used as a call argument or operand, each once, in order of
first use.
-/

namespace UiLang

/-- The largest number a literal may denote: `2 ^ 63 - 1`. -/
def maxNumber : Nat := 9223372036854775807

/-- The largest unsigned 64-bit integer: `2 ^ 64 - 1`. -/
def maxUnsigned : Nat := 18446744073709551615

/-- Why `strconv.Atoi` refuses a text. -/
inductive NumberFault
  | malformed
  | range
  deriving DecidableEq, Repr

/-- The text `strconv` gives a refusal. -/
def NumberFault.message : NumberFault → String
  | .malformed => "invalid syntax"
  | .range => "value out of range"

/-- What building refuses: a number literal that `strconv.Atoi` refuses, an
unknown operator, or a list with no items. -/
inductive BuildFault
  | number (line : Nat) (literal : String) (fault : NumberFault)
  | operator (line : Nat) (symbol : String)
  | emptyList
  deriving DecidableEq, Repr

/-- The text of a refusal. -/
def BuildFault.message : BuildFault → String
  | .number line lit f =>
    "line " ++ toString line ++ ": invalid number " ++ Text.quoted lit ++
      ": strconv.Atoi: parsing " ++ Text.quoted lit ++ ": " ++ f.message
  | .operator line sym => "line " ++ toString line ++ ": unknown operator " ++ Text.quoted sym
  | .emptyList => "received invalid list contents"

/-- Where a refusal was written. -/
inductive BuildPlace
  | component (comp prop : String)
  | variable (name : String)
  | view (name : String)
  deriving DecidableEq, Repr

/-- A failed build: a refusal and where it was written. -/
structure BuildError where
  place : BuildPlace
  fault : BuildFault
  deriving DecidableEq, Repr

/-- The text of a failed build. -/
def BuildError.message (e : BuildError) : String :=
  let place := match e.place with
    | .component c p => "component " ++ c ++ ", property " ++ p ++ ": "
    | .variable n => "variable " ++ n ++ ": "
    | .view n => "view " ++ n ++ ": "
  place ++ e.fault.message

/-- The value of a string of decimal digits. -/
def digitsValue (s : String) : Nat :=
  s.toList.foldl (fun acc d => acc * 10 + (d.toNat - '0'.toNat)) 0

/-- Decimal digits read on from the value `n`, as `strconv.ParseUint` reads base
`10`: a character that is not a digit is a syntax error, and a value past
`2 ^ 64 - 1` is out of range, whichever comes first. -/
def readDigits (n : Nat) : List Char → Except NumberFault Nat
  | [] => .ok n
  | c :: cs =>
    if c.isDigit then
      -- the value is checked before it is multiplied, and again once the digit is added
      if n ≥ maxUnsigned / 10 + 1 then .error .range
      else
        let n' := n * 10 + (c.toNat - '0'.toNat)
        if n' > maxUnsigned then .error .range else readDigits n' cs
    else .error .malformed

/-- Decimal digits after a sign, `neg` for `-`, read as a 64-bit signed integer:
no digits at all is a syntax error. -/
def signedDigits (neg : Bool) (ds : List Char) : Except NumberFault Int :=
  if ds.isEmpty then .error .malformed
  else do
    let n ← readDigits 0 ds
    if neg then (if n > maxNumber + 1 then .error .range else pure (-(n : Int)))
    else if n > maxNumber then .error .range else pure n

/-- `strconv.Atoi` on a 64-bit platform, which is `strconv.ParseInt(s, 10, 0)`:
an optional sign, then decimal digits, denoting a value in the range of a 64-bit
signed integer. Atoi's shortcut for texts under 19 bytes gives the same answers,
as no such text leaves the range. -/
def atoi (s : String) : Except NumberFault Int :=
  match s.toList with
  | '+' :: ds => signedDigits false ds
  | '-' :: ds => signedDigits true ds
  | ds => signedDigits false ds

/-- The number a number token denotes, read by `strconv.Atoi`. -/
def readNumber (t : Token) : Except BuildFault Int :=
  (atoi t.text).mapError (.number t.line t.text)

/-- A string literal without its first and last character (its quotes). -/
def unquote (s : String) : String :=
  if s.length ≥ 2 then String.ofList ((s.toList.drop 1).dropLast) else s

/-- A member from the tokens of `X` and `y`. -/
def Member.ofTokens (obj prop : Token) : Member := ⟨obj.text, obj.line, prop.text⟩

/-- An operand from its syntax. -/
def Operand.ofSyntax : Syntax.Operand → Except BuildFault Operand
  | .number t => .num <$> readNumber t
  | .name t => .ok (.var t.text t.line)
  | .member o p => .ok (.member (Member.ofTokens o p))

/-- The operator of an operator token; any other symbol is an unknown operator. -/
def Operator.ofToken (t : Token) : Except BuildFault Operator :=
  match Operator.ofSymbol? t.text with
  | some op => .ok op
  | none => .error (.operator t.line t.text)

/-- A scalar from its syntax. -/
def Scalar.ofSyntax : Syntax.Scalar → Except BuildFault Scalar
  | .string t => .ok (.str (unquote t.text))
  | .boolean t => .ok (.bool (t.text == "true"))
  | .number t => .num <$> readNumber t
  | .name t => .ok (.var t.text t.line)
  | .arith first steps => do
    -- every term is built before any operator
    let f ← Operand.ofSyntax first
    let os ← steps.mapM fun st => Operand.ofSyntax st.2
    let ops ← steps.mapM fun st => Operator.ofToken st.1
    pure (.arith f (ops.zip os))

/-- A call argument from its syntax. -/
def Arg.ofSyntax : Syntax.Arg → Except BuildFault Arg
  | .member o p => .ok (.member (Member.ofTokens o p))
  | .view n => .ok (.view n.text)
  | .value v => .scalar <$> Scalar.ofSyntax v

/-- A call from its syntax. -/
def Call.ofSyntax (c : Syntax.Call) : Except BuildFault Call := do
  let args ← c.args.mapM Arg.ofSyntax
  pure ⟨FunctionKind.ofName c.name.text, c.name.text, args⟩

/-- A list value from its items; a list with no items is refused. -/
def Value.ofItems : Syntax.Items → Except BuildFault Value
  | .values vs => if vs.isEmpty then .error .emptyList else .list <$> vs.mapM Scalar.ofSyntax
  | .calls cs => if cs.isEmpty then .error .emptyList else .calls <$> cs.mapM Call.ofSyntax

/-- The value of a property line. -/
def Value.ofRhs : Syntax.Rhs → Except BuildFault Value
  | .call c => .call <$> Call.ofSyntax c
  | .list items => Value.ofItems items
  | .value v => .scalar <$> Scalar.ofSyntax v

/-- The value of an instance setting. -/
def Value.ofSetting : Syntax.Setting → Except BuildFault Value
  | .list items => Value.ofItems items
  | .value v => .scalar <$> Scalar.ofSyntax v

/-- An instance from its syntax. -/
def Instance.ofSyntax (i : Syntax.Instance) : Except BuildFault Instance := do
  let args ← i.settings.mapM fun (n, s) => do
    let v ← Value.ofSetting s
    pure (n.text, v)
  pure ⟨i.name.text, i.name.line, args⟩

/-- The parameters of a component with these assignments. -/
def inferParams (as : List Assignment) : List String :=
  firstOccurrences (as.flatMap fun a => a.value.uses.map Prod.fst)

/-- A component from its declaration. -/
def Component.ofSyntax (c : Syntax.ComponentDecl) : Except BuildError Component := do
  let as ← c.properties.mapM fun l =>
    match Value.ofRhs l.rhs with
    | .ok v => .ok ⟨l.name.text, v, l.name.line⟩
    | .error b => .error ⟨.component c.name.text l.name.text, b⟩
  pure ⟨ComponentKind.ofKeyword c.base.text, c.name.text, c.name.line, inferParams as, as⟩

/-- A variable from its declaration. -/
def Variable.ofSyntax (v : Syntax.VariableDecl) : Except BuildError Variable :=
  match Instance.ofSyntax v.inst with
  | .ok i => .ok ⟨v.name.text, v.name.line, i⟩
  | .error b => .error ⟨.variable v.name.text, b⟩

/-- The definition section of a definition file. -/
def Definition.ofSyntax (d : Syntax.DefFile) : Except BuildError Definition := do
  let cs ← d.components.mapM Component.ofSyntax
  let vs ← d.vars.mapM Variable.ofSyntax
  pure ⟨cs, vs⟩

/-- A usage of a view. -/
def Usage.ofSyntax : Syntax.Usage → Except BuildFault Usage
  | .name t => .ok (.ref t.text t.line)
  | .inst i => .inst <$> Instance.ofSyntax i

/-- The view named `name` from its file. -/
def View.ofSyntax (name : String) (v : Syntax.ViewFile) : Except BuildError View :=
  match v.usages.mapM Usage.ofSyntax with
  | .ok us => .ok ⟨name, us⟩
  | .error b => .error ⟨.view name, b⟩

end UiLang
