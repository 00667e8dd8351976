import UiLang.Program.Basic
import UiLang.Program.Cell
import UiLang.Jsx.Error

/-!
# State cells

The generated App keeps in state cells what the program reads or changes at run
time: the view on screen, in the cell `currentView`, and every property `X.y`
that the definition section names as a member. Each cell is created once, in
order of first mention, and starts with the value that the first component named
`X` assigns to `y`; that assignment then reads the cell instead. Two members
whose cell names coincide share the first one's cell.
-/

namespace UiLang.Jsx

/-- A state cell: its read name and its initial value. -/
structure Cell where
  name : String
  initial : Value
  deriving DecidableEq, Repr

/-- The setter of a cell. -/
def Cell.setter (c : Cell) : String := setterName c.name

/-- The cell holding the view on screen. -/
def viewCell : String := "currentView"

/-- The cell named `n` among `cells`. -/
def findCell (cells : List Cell) (n : String) : Option Cell :=
  cells.find? (·.name == n)

/-- The value that the first component named `comp` assigns to `prop`, if it
assigns one. -/
def assignedValue (d : Definition) (comp prop : String) : Option Value :=
  match d.components.find? (·.name == comp) with
  | some c => (c.assignments.find? (·.prop == prop)).map (·.value)
  | none => none

/-- The assignments with the first assignment of `prop` reading `cell`. -/
def rebindFirst (prop cell : String) : List Assignment → List Assignment
  | [] => []
  | a :: as =>
    if a.prop == prop then { a with value := .scalar (.var cell 0) } :: as
    else a :: rebindFirst prop cell as

/-- The components with the first one named `comp` reading `cell` for `prop`. -/
def rebindIn (comp prop cell : String) : List Component → List Component
  | [] => []
  | c :: cs =>
    if c.name == comp then { c with assignments := rebindFirst prop cell c.assignments } :: cs
    else c :: rebindIn comp prop cell cs

/-- One member's cell: none if its name is taken, else the cell with the
assigned value, and the definition rebound to read it. -/
def hoistMember (d : Definition) (acc : List Cell × Definition) (m : Member) :
    Except GenError (List Cell × Definition) :=
  let name := cellName m.obj m.prop
  if (findCell acc.1 name).isSome then .ok acc
  else
    match assignedValue d m.obj m.prop with
    | none => .error (.missingProperty (memberRef m.obj m.prop))
    | some v =>
      .ok (acc.1 ++ [⟨name, v⟩],
        { acc.2 with components := rebindIn m.obj m.prop name acc.2.components })

/-- The cells of a definition section with default view `view`, and the
definition rebound to read them. -/
def hoist (d : Definition) (view : String) : Except GenError (List Cell × Definition) :=
  d.members.foldlM (hoistMember d) ([⟨viewCell, .scalar (.str view)⟩], d)

end UiLang.Jsx
