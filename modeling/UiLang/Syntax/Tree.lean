import UiLang.Token

/-!
# Syntax trees of definition and view files

A definition file declares components, then variables:

    BUTTON HomeButton:
        color = 'gray'
        onclick = open(Main.view)
    HomeButton AS hb

A view file lists one usage per line: a variable name, or an instance
`Comp WITH a = v, ...`. The trees keep the tokens they were read from, so that
later stages can name lines and texts exactly as written.

The grammar is flat: a list holds values or calls, a call holds arguments, and
an arithmetic expression holds operands; nothing nests deeper.
-/

namespace UiLang.Syntax

/-- An operand of arithmetic: a number, a name, or `X.y`. -/
inductive Operand
  | number (tok : Token)
  | name (tok : Token)
  | member (obj prop : Token)
  deriving DecidableEq, Repr

/-- A single value: a literal, a name, or `t₀ op₁ t₁ ... opₙ tₙ` with at least
one operator. -/
inductive Scalar
  | string (tok : Token)
  | boolean (tok : Token)
  | number (tok : Token)
  | name (tok : Token)
  | arith (first : Operand) (steps : List (Token × Operand))
  deriving DecidableEq, Repr

/-- An argument of a call: `X.y`, `V.view`, or a value. -/
inductive Arg
  | member (obj prop : Token)
  | view (name : Token)
  | value (v : Scalar)
  deriving DecidableEq, Repr

/-- A call `name(arg, ...)`. -/
structure Call where
  name : Token
  args : List Arg
  deriving DecidableEq, Repr

/-- The items of a list: values only, or calls only. -/
inductive Items
  | values (vs : List Scalar)
  | calls (cs : List Call)
  deriving DecidableEq, Repr

/-- The right side of a property line. -/
inductive Rhs
  | call (c : Call)
  | list (items : Items)
  | value (v : Scalar)
  deriving DecidableEq, Repr

/-- One `property = rhs` line of a component body. -/
structure PropertyLine where
  name : Token
  rhs : Rhs
  deriving DecidableEq, Repr

/-- A component declaration: base keyword, name, and property lines. -/
structure ComponentDecl where
  base : Token
  name : Token
  properties : List PropertyLine
  deriving DecidableEq, Repr

/-- The value given to one argument of an instance: a list or a value. -/
inductive Setting
  | list (items : Items)
  | value (v : Scalar)
  deriving DecidableEq, Repr

/-- An instance `Comp WITH a = v, ...` (the `WITH` part may be absent). -/
structure Instance where
  name : Token
  settings : List (Token × Setting)
  deriving DecidableEq, Repr

/-- A variable declaration `Comp WITH ... AS name`. -/
structure VariableDecl where
  inst : Instance
  name : Token
  deriving DecidableEq, Repr

/-- The declarations of a definition file, components first. -/
structure DefFile where
  components : List ComponentDecl := []
  vars : List VariableDecl := []
  deriving DecidableEq, Repr

/-- One line of a view: a variable name or an instance. -/
inductive Usage
  | name (tok : Token)
  | inst (i : Instance)
  deriving DecidableEq, Repr

/-- The usages of a view file. -/
structure ViewFile where
  usages : List Usage := []
  deriving DecidableEq, Repr

end UiLang.Syntax
