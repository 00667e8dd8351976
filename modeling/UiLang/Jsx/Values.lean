import UiLang.Jsx.Cells
import UiLang.Text.Quoted

/-!
# Rendering values

Values are written as JSX expressions. Strings are quoted (`UiLang.Text.quoted`),
numbers are decimal, booleans are `true` and `false`, names stand for
themselves, and arithmetic is written without spaces. A member `X.y` reads its
state cell, a view `V.view` is written `V`, a list of values is written
`[a, b]`, and an instance `<Comp a={x} b={y} />`.

Calls have a rendering only inside the definition section: `set(X.y, v)`
becomes a call of the setter of `X.y`'s cell, `open(V.view)` sets the view cell,
and a list of calls is a block of such statements, one per line. Elsewhere a
call is an error.
-/

namespace UiLang.Jsx

/-- Where a value is rendered: calls have a rendering only in the definition
section. -/
inductive Place
  | definition
  | view
  deriving DecidableEq, Repr

/-- A member reads the cell that backs it. -/
def renderMember (cells : List Cell) (m : Member) : Except GenError String :=
  let n := cellName m.obj m.prop
  if (findCell cells n).isSome then .ok n else .error (.notHoisted (memberRef m.obj m.prop))

/-- An arithmetic operand. -/
def renderOperand (cells : List Cell) : Operand → Except GenError String
  | .num n => .ok (toString n)
  | .var n _ => .ok n
  | .member m => renderMember cells m

/-- Whether some step divides by the literal `0`. -/
def dividesByZero (steps : List (Operator × Operand)) : Bool :=
  steps.any fun
    | (.div, .num 0) => true
    | _ => false

/-- A scalar. Arithmetic that divides by the literal `0` is an error, whatever
its operands. -/
def renderScalar (cells : List Cell) : Scalar → Except GenError String
  | .str s => .ok (Text.quoted s)
  | .num n => .ok (toString n)
  | .bool b => .ok (if b then "true" else "false")
  | .var n _ => .ok n
  | .arith first steps =>
    if dividesByZero steps then .error .divisionByZero
    else do
      let f ← renderOperand cells first
      let rest ← steps.mapM fun (op, t) => do
        let r ← renderOperand cells t
        pure (op.symbol ++ r)
      pure (f ++ String.join rest)

/-- A call argument read as a value. -/
def renderArg (cells : List Cell) : Arg → Except GenError String
  | .member m => renderMember cells m
  | .view n => .ok n
  | .scalar s => renderScalar cells s

/-- A call: a statement in the definition section, an error elsewhere. -/
def renderCall (cells : List Cell) (place : Place) (c : Call) : Except GenError String :=
  match place with
  | .view => .error (.misplacedCall c.name)
  | .definition =>
    match c.kind with
    | .setProperty =>
      match c.args with
      | [target, v] =>
        match target with
        | .member m =>
          match findCell cells (cellName m.obj m.prop) with
          | some cell => do
            let r ← renderArg cells v
            pure (cell.setter ++ "(" ++ r ++ ");")
          | none => .error (.setNotHoisted (memberRef m.obj m.prop))
        | _ => .error .setTarget
      | args => .error (.setArity args.length)
    | .openView =>
      match c.args with
      | [.view n] => .ok (setterName viewCell ++ "(\"" ++ n ++ "\");")
      | [_] => .error .openTarget
      | args => .error (.openArity args.length)
    | .invalid => .error (.unknownFunction c.name)

/-- A value. -/
def renderValue (cells : List Cell) (place : Place) : Value → Except GenError String
  | .scalar s => renderScalar cells s
  | .list items => do
    let rs ← items.mapM (renderScalar cells)
    pure ("[" ++ ", ".intercalate rs ++ "]")
  | .calls [] => .ok "[]"
  | .calls items =>
    match place with
    | .definition => do
      let rs ← items.mapM (renderCall cells place)
      pure (String.join (rs.map ("\n\t\t\t\t" ++ ·)) ++ "\n\t\t\t")
    | .view => do
      let rs ← items.mapM (renderCall cells place)
      pure ("[" ++ ", ".intercalate rs ++ "]")
  | .call c => renderCall cells place c

/-- An instance, as an element `<Comp a={x} />`. -/
def renderInstance (cells : List Cell) (place : Place) (i : Instance) :
    Except GenError String := do
  let args ← i.args.mapM fun (n, v) => do
    let r ← renderValue cells place v
    pure (n ++ "=\x7b" ++ r ++ "\x7d")
  pure ("<" ++ i.name ++ " " ++ " ".intercalate args ++ " />")

end UiLang.Jsx
