import UiLang.Program.Kinds

/-!
# Programs

A program is one definition section (components, then variables) and a list of
views, with the name of the view shown first. Values are flat: a value is a
single scalar, a list of scalars, a list of calls, or one call; a call's
arguments are members `X.y`, views `V.view` or scalars; arithmetic operands are
numbers, names or members.

`Definition.members` lists every member `X.y` of the definition section in
reading order: components before variables, each value left to right.
-/

namespace UiLang

/-- `X.y`: property `prop` of the component named `obj`, which stands on line
`line`. -/
structure Member where
  obj : String
  line : Nat
  prop : String
  deriving DecidableEq, Repr, Inhabited

/-- An arithmetic operand. -/
inductive Operand
  | num (n : Int)
  | var (name : String) (line : Nat)
  | member (m : Member)
  deriving DecidableEq, Repr, Inhabited

/-- A single value. `arith first steps` has at least one step. -/
inductive Scalar
  | str (s : String)
  | num (n : Int)
  | bool (b : Bool)
  | var (name : String) (line : Nat)
  | arith (first : Operand) (steps : List (Operator × Operand))
  deriving DecidableEq, Repr, Inhabited

/-- A call argument. -/
inductive Arg
  | member (m : Member)
  | view (name : String)
  | scalar (s : Scalar)
  deriving DecidableEq, Repr, Inhabited

/-- A call of a built-in function. -/
structure Call where
  kind : FunctionKind
  name : String
  args : List Arg
  deriving DecidableEq, Repr, Inhabited

/-- A value: a scalar, a list of scalars, a list of calls, or one call. -/
inductive Value
  | scalar (s : Scalar)
  | list (items : List Scalar)
  | calls (items : List Call)
  | call (c : Call)
  deriving DecidableEq, Repr, Inhabited

/-- `prop = value` in a component body, on line `line`. -/
structure Assignment where
  prop : String
  value : Value
  line : Nat
  deriving DecidableEq, Repr, Inhabited

/-- A component: a base kind, a name, its parameters and its assignments. -/
structure Component where
  kind : ComponentKind
  name : String
  line : Nat
  params : List String
  assignments : List Assignment
  deriving DecidableEq, Repr, Inhabited

/-- An instance `Comp WITH a = v, ...` of the component named `name`. -/
structure Instance where
  name : String
  line : Nat
  args : List (String × Value)
  deriving DecidableEq, Repr, Inhabited

/-- A variable `inst AS name`. -/
structure Variable where
  name : String
  line : Nat
  inst : Instance
  deriving DecidableEq, Repr, Inhabited

/-- The definition section: components, then variables. -/
structure Definition where
  components : List Component
  vars : List Variable
  deriving DecidableEq, Repr, Inhabited

/-- One entry of a view: a variable name or an instance. -/
inductive Usage
  | ref (name : String) (line : Nat)
  | inst (i : Instance)
  deriving DecidableEq, Repr, Inhabited

/-- A view, named by its file. -/
structure View where
  name : String
  usages : List Usage
  deriving DecidableEq, Repr, Inhabited

/-- A program: the definition section, the views in order, and the view shown
first. -/
structure Program where
  definition : Definition
  views : List View
  defaultView : String
  deriving DecidableEq, Repr, Inhabited

/-- The members among the operands. -/
def Operand.members : Operand → List Member
  | .member m => [m]
  | _ => []

/-- The members of a scalar. -/
def Scalar.members : Scalar → List Member
  | .arith first steps => first.members ++ steps.flatMap (·.2.members)
  | _ => []

/-- The members of an argument. -/
def Arg.members : Arg → List Member
  | .member m => [m]
  | .view _ => []
  | .scalar s => s.members

/-- The members of a call's arguments. -/
def Call.members (c : Call) : List Member :=
  c.args.flatMap Arg.members

/-- The members of a value, left to right. -/
def Value.members : Value → List Member
  | .scalar s => s.members
  | .list items => items.flatMap Scalar.members
  | .calls items => items.flatMap Call.members
  | .call c => c.members

/-- Every member of the definition section: components first, then variables,
each in reading order. Repeats are kept. -/
def Definition.members (d : Definition) : List Member :=
  d.components.flatMap (fun c => c.assignments.flatMap (·.value.members)) ++
    d.vars.flatMap (fun v => v.inst.args.flatMap (·.2.members))

/-- The names an operand reads, with their lines. -/
def Operand.uses : Operand → List (String × Nat)
  | .num _ => []
  | .var n l => [(n, l)]
  | .member m => [(m.obj, m.line)]

/-- The names a scalar reads, with their lines, left to right. -/
def Scalar.uses : Scalar → List (String × Nat)
  | .var n l => [(n, l)]
  | .arith first steps => first.uses ++ steps.flatMap (·.2.uses)
  | _ => []

/-- The names an argument reads: a name, the operands, or the component of a
member. -/
def Arg.uses : Arg → List (String × Nat)
  | .member m => [(m.obj, m.line)]
  | .view _ => []
  | .scalar s => s.uses

/-- The names a call's arguments read. -/
def Call.uses (c : Call) : List (String × Nat) :=
  c.args.flatMap Arg.uses

/-- The names a value reads, with their lines, left to right. -/
def Value.uses : Value → List (String × Nat)
  | .scalar s => s.uses
  | .list items => items.flatMap Scalar.uses
  | .calls items => items.flatMap Call.uses
  | .call c => c.uses

/-- The names an instance reads: the component it instantiates, then the names
its arguments read. -/
def Instance.uses (i : Instance) : List (String × Nat) :=
  (i.name, i.line) :: i.args.flatMap (·.2.uses)

/-- The names a view entry reads. -/
def Usage.uses : Usage → List (String × Nat)
  | .ref n l => [(n, l)]
  | .inst i => i.uses

/-- The views a value names as call arguments, left to right. -/
def Value.viewRefs : Value → List String
  | .scalar _ | .list _ => []
  | .calls items => items.flatMap fun c => c.args.flatMap fun | .view n => [n] | _ => []
  | .call c => c.args.flatMap fun | .view n => [n] | _ => []

/-- The calls of a value, left to right. -/
def Value.allCalls : Value → List Call
  | .scalar _ | .list _ => []
  | .calls items => items
  | .call c => [c]

/-- The elements of a list, each at its first occurrence. -/
def firstOccurrences : List String → List String :=
  go []
where
  /-- Keeps the elements not in `seen`, adding each kept one to `seen`. -/
  go (seen : List String) : List String → List String
    | [] => []
    | x :: xs => if x ∈ seen then go seen xs else x :: go (x :: seen) xs

end UiLang
