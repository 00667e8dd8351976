import UiLang.Jsx.Values

/-!
# The generated App

The App is one file: a prelude and the page style, then the `App` component
holding the state cells, one arrow component per component definition, one
constant per variable, and one page per view, and last the root element, which
shows the page of the view named by `currentView`.

A component renders as its base element. Style properties go into the `style`
table (a container first gets a centred grid layout, a button a pointer
cursor), functional properties become attributes, and child properties become
content. `visible` turns a boolean into the visibility keyword, and `direction`
names the axis along which children are laid out, the opposite of the grid's
flow. A component destructures the names assigned directly to its properties
that are not state cells, and a container also its `components`.
-/

namespace UiLang.Jsx

/-- The text before the `App` component. -/
def prelude : String :=
  "const \x7buseState\x7d = React;\n\nconst style = \x7b\n\twidth: \"100%\",\n\theight: \"100%\",\n" ++
  "\tdisplay: \"grid\",\n\tjustifyItems: \"center\",\n\talignItems: \"center\",\n" ++
  "\tgap: \"10px\",\n\tpadding: \"10px\",\n\x7d;\n\n"

/-- The name of a view's page component. -/
def pageName (view : String) : String := view ++ "Page"

/-- The layout every container starts with. -/
def containerStyles : List (String × String) :=
  [("display", "grid"), ("justifyItems", "center"), ("alignItems", "center"), ("gap", "10px"),
   ("padding", "10px")]

/-- The names a component destructures: names assigned directly to its
properties that are not cells, once each, and `components` for a container. -/
def componentProps (cells : List Cell) (c : Component) : List String :=
  let direct := c.assignments.filterMap fun a =>
    match a.value with
    | .scalar (.var n _) => if (findCell cells n).isSome then none else some n
    | _ => none
  firstOccurrences (direct ++ (if c.kind = .container then ["components"] else []))

/-- A style property's value: `visible` and `direction` are converted. -/
def renderStyleValue (cells : List Cell) (prop : String) (v : Value) : Except GenError String :=
  match prop, v with
  | "visible", .scalar (.bool b) => .ok (if b then "\"visible\"" else "\"hidden\"")
  | "visible", _ => do
    let r ← renderValue cells .definition v
    pure (r ++ " ? \"visible\" : \"hidden\"")
  | "direction", .scalar (.str s) => .ok (if s == "row" then "\"column\"" else "\"row\"")
  | "direction", _ => do
    let r ← renderValue cells .definition v
    pure (r ++ " === \"row\" ? \"column\" : \"row\"")
  | _, _ => renderValue cells .definition v

/-- One assignment, as the line its property class asks for. -/
def renderAssignment (cells : List Cell) (a : Assignment) : Except GenError String := do
  let name := markupName a.prop
  match propertyClass a.prop with
  | .style =>
    let r ← renderStyleValue cells a.prop a.value
    pure ("\t\t\t\t" ++ name ++ ": " ++ r ++ ",\n")
  | .functional =>
    let r ← renderValue cells .definition a.value
    let r := if a.prop == "onclick" then "() => \x7b" ++ r ++ "\x7d" else r
    pure ("\t\t\t" ++ name ++ " = \x7b" ++ r ++ "\x7d\n")
  | .child =>
    let r ← renderValue cells .definition a.value
    pure ("\t\t\t\x7b" ++ r ++ "\x7d\n")
  | .invalid => pure ""

/-- The lines of the assignments of one property class, in order. -/
def renderClass (cells : List Cell) (c : Component) (k : PropertyClass) : Except GenError String := do
  let rs ← (c.assignments.filter fun a => propertyClass a.prop = k).mapM (renderAssignment cells)
  pure (String.join rs)

/-- A component as an arrow component. -/
def renderComponent (cells : List Cell) (c : Component) : Except GenError String := do
  let tag := c.kind.tag
  let layout := match c.kind with
    | .container => String.join (containerStyles.map fun (k, v) => "\t\t\t\t" ++ k ++ ": \"" ++ v ++ "\",\n")
    | .button => "\t\t\t\tcursor: \"pointer\",\n"
    | _ => ""
  let styles ← renderClass cells c .style
  let inputType := match c.kind with
    | .checkbox => "\t\t\ttype=\"checkbox\"\n"
    | .textInput => "\t\t\ttype=\"text\"\n"
    | _ => ""
  let attrs ← renderClass cells c .functional
  let content ← renderClass cells c .child
  let nested := if c.kind = .container then "\t\t\t\x7bcomponents\x7d\n" else ""
  pure ("\tconst " ++ c.name ++ " = (\x7b" ++ ", ".intercalate (componentProps cells c) ++
    "\x7d) => (\n" ++ "\t\t<" ++ tag ++ "\n" ++ "\t\t\tstyle = \x7b\x7b\n" ++ layout ++ styles ++
    "\t\t\t\x7d\x7d\n" ++ inputType ++ attrs ++ "\t\t>\n" ++ content ++ nested ++
    "\t\t</" ++ tag ++ ">\n\t);\n")

/-- The `useState` declaration of a cell, with its initial value. -/
def renderCell (cells : List Cell) (c : Cell) : Except GenError String := do
  let r ← renderValue cells .definition c.initial
  pure ("\tconst [" ++ c.name ++ ", " ++ c.setter ++ "] = useState(" ++ r ++ ");\n")

/-- The definition section: the cells, the components, the variables. -/
def renderDefinition (cells : List Cell) (d : Definition) : Except GenError String := do
  let cellLines ← cells.mapM (renderCell cells)
  let comps ← d.components.mapM (renderComponent cells)
  let vars ← d.vars.mapM fun v => do
    let r ← renderInstance cells .definition v.inst
    pure ("\tconst " ++ v.name ++ " = " ++ r ++ ";\n")
  pure (String.join cellLines ++ "\n" ++ String.join comps ++ "\n" ++ String.join vars ++ "\n")

/-- A view as a page component listing its entries. -/
def renderView (cells : List Cell) (v : View) : Except GenError String := do
  let entries ← v.usages.mapM fun
    | .ref n _ => pure ("\t\t\t\x7b" ++ n ++ "\x7d\n")
    | .inst i => do
      let r ← renderInstance cells .view i
      pure ("\t\t\t" ++ r ++ "\n")
  pure ("\tconst " ++ pageName v.name ++ " = () => (\n\t\t<div style=\x7bstyle\x7d>\n" ++
    String.join entries ++ "\t\t</div>\n\t);\n")

/-- The view shown first: the program's default view, or `Main` when it names
none. -/
def Program.startView (p : Program) : String :=
  if p.defaultView == "" then "Main" else p.defaultView

/-- The text of the App before its state cells. -/
def appHead : String :=
  prelude ++ "const App = () => \x7b\n" ++
    "\t//--------------------- DEFINITIONS ---------------------//\n"

/-- The text of the App after the definition section: the pages, then the root
element, which shows the page of the view named by `currentView` and the page
of `start` for any other name. -/
def appTail (views : List View) (start : String) (pages : List String) : String :=
  let choices := (views.filter (·.name != start)).map fun v =>
    "\t\t\t\tcurrentView === \"" ++ v.name ++ "\" ? (<" ++ pageName v.name ++ " />) :\n"
  "\t//------------------------ VIEWS ------------------------//\n" ++ String.join pages ++
    "\n\treturn (\n\t\t<div>\n\t\t\t\x7b\n" ++ String.join choices ++
    "\t\t\t\t<" ++ pageName start ++ " />\n" ++ "\t\t\t\x7d\n\t\t</div>\n\t);\n\x7d;\n" ++
    "ReactDOM.render(<App />, document.getElementById(\"root\"));\n"

/-- The App for a program, or the first reason it cannot be generated. -/
def generate (p : Program) : Except GenError String := do
  let start := Program.startView p
  if !(p.views.any (·.name == start)) then throw (.missingDefaultView (start ++ ".view"))
  let (cells, d) ← hoist p.definition start
  let defs ← renderDefinition cells d
  let pages ← p.views.mapM (renderView cells)
  pure (appHead ++ defs ++ appTail p.views start pages)

end UiLang.Jsx
