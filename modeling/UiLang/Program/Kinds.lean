/-!
# The fixed vocabulary of the definition language

Six base components, the properties a component may set, the two built-in
functions and the four arithmetic operators, each with the names under which
they appear in source text and in generated markup.
-/

namespace UiLang

/-- The built-in components a definition derives from. -/
inductive ComponentKind
  | button
  | text
  | picture
  | checkbox
  | container
  | textInput
  | invalid
  deriving DecidableEq, Repr, Inhabited

namespace ComponentKind

/-- The kind named by a base keyword; any other word is `invalid`. -/
def ofKeyword : String → ComponentKind
  | "BUTTON" => .button
  | "TEXT" => .text
  | "PICTURE" => .picture
  | "CHECKBOX" => .checkbox
  | "CONTAINER" => .container
  | "TEXTINPUT" => .textInput
  | _ => .invalid

/-- The display name of a kind. -/
def name : ComponentKind → String
  | .button => "Button"
  | .text => "Text"
  | .picture => "Picture"
  | .checkbox => "Checkbox"
  | .container => "Container"
  | .textInput => "TextInput"
  | .invalid => "Invalid"

/-- The markup element a kind renders as. -/
def tag : ComponentKind → String
  | .button => "button"
  | .text => "p"
  | .picture => "img"
  | .checkbox | .textInput => "input"
  | .container => "div"
  | .invalid => ""

end ComponentKind

/-- Where a property is rendered: in the style table, as an element attribute,
or as nested content. Unknown properties are `invalid`. -/
inductive PropertyClass
  | style
  | functional
  | child
  | invalid
  deriving DecidableEq, Repr, Inhabited

/-- The display name of a property class. -/
def PropertyClass.name : PropertyClass → String
  | .style => "Style"
  | .functional => "Functional"
  | .child => "Child"
  | .invalid => "Invalid"

/-- The known properties with their classes. -/
def propertyTable : List (String × PropertyClass) :=
  [("color", .style), ("backgroundcolor", .style), ("width", .style), ("height", .style),
   ("visible", .style), ("fontsize", .style), ("fontstyle", .style), ("direction", .style),
   ("alignment", .style), ("gap", .style), ("padding", .style), ("border", .style),
   ("borderstyle", .style), ("bordercolor", .style), ("borderwidth", .style),
   ("onclick", .functional), ("url", .functional), ("alt", .functional),
   ("disabled", .functional), ("checked", .functional), ("value", .functional),
   ("components", .child), ("text", .child)]

/-- The class of a property name; names outside the table are `invalid`. -/
def propertyClass (name : String) : PropertyClass :=
  (propertyTable.lookup name).getD .invalid

/-- The known property names in byte order, as suggestions list them. -/
def knownProperties : List String :=
  ["alignment", "alt", "backgroundcolor", "border", "bordercolor", "borderstyle",
   "borderwidth", "checked", "color", "components", "direction", "disabled", "fontsize",
   "fontstyle", "gap", "height", "onclick", "padding", "text", "url", "value", "visible",
   "width"]

/-- The style key or attribute a property renders as; most keep their name. -/
def markupName : String → String
  | "onclick" => "onClick"
  | "direction" => "gridAutoFlow"
  | "alignment" => "justifySelf"
  | "fontsize" => "fontSize"
  | "fontstyle" => "fontWeight"
  | "backgroundcolor" => "backgroundColor"
  | "borderstyle" => "borderStyle"
  | "bordercolor" => "borderColor"
  | "borderwidth" => "borderWidth"
  | "visible" => "visibility"
  | "url" => "src"
  | p => p

/-- The built-in functions: changing a property, and showing a view. -/
inductive FunctionKind
  | setProperty
  | openView
  | invalid
  deriving DecidableEq, Repr, Inhabited

namespace FunctionKind

/-- The function a call name refers to. -/
def ofName : String → FunctionKind
  | "set" => .setProperty
  | "open" => .openView
  | _ => .invalid

/-- The source name of a function kind. -/
def name : FunctionKind → String
  | .setProperty => "set"
  | .openView => "open"
  | .invalid => "invalid"

end FunctionKind

/-- The arithmetic operators. -/
inductive Operator
  | add
  | sub
  | mul
  | div
  deriving DecidableEq, Repr, Inhabited

namespace Operator

/-- The operator written as `symbol`, if any. -/
def ofSymbol? : String → Option Operator
  | "+" => some .add
  | "-" => some .sub
  | "*" => some .mul
  | "/" => some .div
  | _ => none

/-- The symbol of an operator. -/
def symbol : Operator → String
  | .add => "+"
  | .sub => "-"
  | .mul => "*"
  | .div => "/"

end Operator

end UiLang
