import UiLang.Number.Binary64

/-!
# The language reference

The reference lists every construct of the two languages: its template, what it
does, the section it belongs to, words to find it by, and an example. Sections
have a short name and a title, and come in a fixed order.
-/

namespace UiLang.Reference

/-- The sections of the reference. -/
inductive Section
  | components
  | styling
  | attributes
  | content
  | events
  | values
  | vars
  | views
  deriving DecidableEq, Repr

namespace Section

/-- The sections in display order. -/
def all : List Section :=
  [.components, .styling, .attributes, .content, .events, .values, .vars, .views]

/-- The short name of a section. -/
def name : Section → String
  | .components => "components"
  | .styling => "styling"
  | .attributes => "attributes"
  | .content => "content"
  | .events => "events"
  | .values => "values"
  | .vars => "variables"
  | .views => "views"

/-- The title of a section. -/
def title : Section → String
  | .components => "Component Templates"
  | .styling => "Style Properties"
  | .attributes => "Element Attributes"
  | .content => "Content"
  | .events => "Events & Functions"
  | .values => "Values"
  | .vars => "Variables"
  | .views => "Views"

end Section

/-- One construct: its template, description, section, search words and
example (`sample`, `""` for none); `part` is its section. -/
structure Pattern where
  template : String
  description : String
  part : Section
  tags : List String
  sample : String
  deriving DecidableEq, Repr

/-- Every construct, in display order. -/
def patterns : List Pattern := [
  ⟨"BUTTON <Name>:", "Clickable button, rendered as <button>", .components, ["BUTTON", "button", "click"],
    "BUTTON HomeButton:\n\ttext = 'Home'\n\tonclick = open(Main.view)"⟩,
  ⟨"TEXT <Name>:", "Paragraph of text, rendered as <p>", .components, ["TEXT", "text", "label", "paragraph"],
    "TEXT Greeting:\n\ttext = t\n\tfontsize = 16"⟩,
  ⟨"PICTURE <Name>:", "Image, rendered as <img>", .components, ["PICTURE", "picture", "image", "img"],
    "PICTURE Logo:\n\turl = 'logo.png'\n\talt = 'Logo'"⟩,
  ⟨"CHECKBOX <Name>:", "Checkbox input", .components, ["CHECKBOX", "checkbox", "toggle", "input"],
    "CHECKBOX Agree:\n\tchecked = false"⟩,
  ⟨"TEXTINPUT <Name>:", "Single-line text input", .components, ["TEXTINPUT", "textinput", "input", "field"],
    "TEXTINPUT Email:\n\tvalue = 'you@example.com'"⟩,
  ⟨"CONTAINER <Name>:", "Grid layout holding other components, rendered as <div>", .components, ["CONTAINER", "container", "layout", "grid", "div"],
    "CONTAINER NavBar:\n\tdirection = 'row'\n\tgap = 10"⟩,
  ⟨"color = <text>", "Text color", .styling, ["color", "colour"],
    ""⟩,
  ⟨"backgroundcolor = <text>", "Background color", .styling, ["backgroundcolor", "background", "color"],
    ""⟩,
  ⟨"width = <size>", "Element width, a number of pixels or a CSS string", .styling, ["width", "size"],
    ""⟩,
  ⟨"height = <size>", "Element height, a number of pixels or a CSS string", .styling, ["height", "size"],
    ""⟩,
  ⟨"visible = <true|false>", "Shows or hides the element", .styling, ["visible", "visibility", "hidden"],
    ""⟩,
  ⟨"fontsize = <size>", "Font size", .styling, ["fontsize", "font", "size"],
    ""⟩,
  ⟨"fontstyle = 'bold'|'underline'|'italic'", "Font weight or decoration", .styling, ["fontstyle", "font", "bold", "italic"],
    ""⟩,
  ⟨"direction = 'row'|'column'", "Direction a container lays out its components", .styling, ["direction", "layout", "row", "column"],
    ""⟩,
  ⟨"alignment = 'left'|'center'|'right'", "Horizontal alignment of the element", .styling, ["alignment", "align", "center"],
    ""⟩,
  ⟨"gap = <size>", "Space between a container's components", .styling, ["gap", "spacing"],
    ""⟩,
  ⟨"padding = <size>", "Inner spacing", .styling, ["padding", "spacing"],
    ""⟩,
  ⟨"border = <text>", "CSS border shorthand", .styling, ["border"],
    ""⟩,
  ⟨"borderstyle = 'solid'|'dashed'|...", "Border line style", .styling, ["borderstyle", "border", "dotted", "dashed", "solid"],
    ""⟩,
  ⟨"bordercolor = <text>", "Border color", .styling, ["bordercolor", "border", "color"],
    ""⟩,
  ⟨"borderwidth = <size>", "Border width", .styling, ["borderwidth", "border", "size"],
    ""⟩,
  ⟨"url = <text>", "Image source of a PICTURE", .attributes, ["url", "src", "image"],
    ""⟩,
  ⟨"alt = <text>", "Alternative text of a PICTURE", .attributes, ["alt", "image", "accessibility"],
    ""⟩,
  ⟨"disabled = <true|false>", "Disables an input or button", .attributes, ["disabled", "input"],
    ""⟩,
  ⟨"checked = <true|false>", "Initial state of a CHECKBOX", .attributes, ["checked", "checkbox"],
    ""⟩,
  ⟨"value = <text>", "Initial value of a TEXTINPUT", .attributes, ["value", "input"],
    ""⟩,
  ⟨"onclick = <call or [calls]>", "Functions run when the element is clicked", .attributes, ["onclick", "click", "event"],
    ""⟩,
  ⟨"text = <text>", "Text shown inside the element", .content, ["text", "label", "content"],
    ""⟩,
  ⟨"components = [<var>, ...]", "Components placed inside a CONTAINER", .content, ["components", "children", "container"],
    ""⟩,
  ⟨"open(<View>.view)", "Switches the page to another view", .events, ["open", "navigate", "view", "page"],
    "onclick = open(About.view)"⟩,
  ⟨"set(<Component>.<property>, <value>)", "Changes a property of a component at runtime", .events, ["set", "state", "update", "change"],
    "onclick = set(Greeting.fontsize, Greeting.fontsize + 2)"⟩,
  ⟨"[<call>, <call>, ...]", "Runs several functions in order", .events, ["list", "sequence", "calls"],
    "onclick = [set(Pic.width, Pic.width * 2), open(About.view)]"⟩,
  ⟨"'text' or \"text\"", "String literal", .values, ["string", "quote", "literal"],
    ""⟩,
  ⟨"<number>", "Integer literal", .values, ["number", "integer", "literal"],
    ""⟩,
  ⟨"true | false", "Boolean literal", .values, ["boolean", "true", "false"],
    ""⟩,
  ⟨"<param>", "Parameter bound when the component is instantiated", .values, ["parameter", "param", "argument"],
    ""⟩,
  ⟨"<a> + <b> - <c> * <d> / <e>", "Flat arithmetic, evaluated in the browser", .values, ["arithmetic", "math", "expression"],
    ""⟩,
  ⟨"<Component>.<property>", "Current value of a component's property, inside set or arithmetic", .values, ["property", "reference", "state"],
    ""⟩,
  ⟨"# comment", "Ignored until the end of the line", .values, ["comment"],
    ""⟩,
  ⟨"<Component> AS <name>", "Instantiates a component template under a name", .vars, ["AS", "variable", "instance"],
    "HomeButton AS hb"⟩,
  ⟨"<Component> WITH <param> = <value>, ... AS <name>", "Instantiates a template with arguments", .vars, ["WITH", "arguments", "variable", "instance"],
    "Greeting WITH t='Hello!' AS hello"⟩,
  ⟨"<Container> WITH components=[<var>, ...] AS <name>", "Fills a container with earlier variables", .vars, ["components", "container", "variable"],
    "NavBar WITH components=[hb, ab] AS nb"⟩,
  ⟨"<name>", "Places a variable from the .def file on the page", .views, ["view", "usage", "variable"],
    "nb"⟩,
  ⟨"<Component> WITH <param> = <value>, ...", "Places an unnamed instance on the page", .views, ["view", "usage", "WITH", "instance"],
    "Greeting WITH t='Built with uic.'"⟩,
  ⟨"<Name>.view", "One page; the file stem is the view name used by open()", .views, ["view", "file", "page"],
    "ui/input/About.view"⟩]

end UiLang.Reference
