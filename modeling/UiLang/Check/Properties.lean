import UiLang.Check.Diagnostic
import UiLang.Program.Basic
import UiLang.Suggest.Closest

/-!
# Property types

Every property a component sets must be known, every function it calls must
be `set` or `open`, and every value must be of a kind the property accepts.
Some properties accept only a few literal strings.

An unknown property is reported with a suggestion among the known ones, and its
value is not examined. Otherwise each unknown function in the value is
reported, then a value of the wrong kind, and else a string outside the
property's literals.
-/

namespace UiLang.Check

/-- The kind of a value, as property types see it. -/
inductive ValueKind
  | string
  | number
  | boolean
  | varRef
  | arith
  | list
  | call
  deriving DecidableEq, Repr

/-- The kind of a value; a list of calls is a list. -/
def valueKind : Value → ValueKind
  | .scalar (.str _) => .string
  | .scalar (.num _) => .number
  | .scalar (.bool _) => .boolean
  | .scalar (.var _ _) => .varRef
  | .scalar (.arith _ _) => .arith
  | .list _ | .calls _ => .list
  | .call _ => .call

/-- The kinds of value a known property accepts. -/
def acceptedKinds (prop : String) : Option (List ValueKind) :=
  let textLike := [ValueKind.string, .varRef]
  let sizeLike := [ValueKind.string, .number, .varRef]
  let flagLike := [ValueKind.boolean, .varRef]
  let literalOnly := [ValueKind.string]
  match prop with
  | "color" | "backgroundcolor" | "border" | "bordercolor" | "url" | "alt" | "value" | "text" =>
    some textLike
  | "width" | "height" | "borderwidth" | "fontsize" | "gap" | "padding" => some sizeLike
  | "visible" | "disabled" | "checked" => some flagLike
  | "borderstyle" | "fontstyle" | "direction" | "alignment" => some literalOnly
  | "onclick" => some [.call, .list, .varRef]
  | "components" => some [.list, .varRef]
  | _ => none

/-- The literal strings a property accepts, for properties restricted to some. -/
def acceptedLiterals : String → Option (List String)
  | "direction" => some ["row", "column"]
  | "alignment" => some ["left", "center", "right"]
  | "fontstyle" => some ["bold", "underline", "italic"]
  | "borderstyle" =>
    some ["dotted", "dashed", "solid", "double", "groove", "ridge", "inset", "outset", "none",
      "hidden"]
  | _ => none

/-- The names of the built-in functions, for suggestions. -/
def functionNames : List String := ["open", "set"]

/-- The findings about one assignment; they name `file`. -/
def checkAssignment (file : String) (a : Assignment) : List Diagnostic :=
  if propertyClass a.prop = .invalid then
    [⟨.unknownProperty a.prop, file, a.line, Suggest.didYouMean a.prop knownProperties⟩]
  else
    let calls := (a.value.allCalls.filter (·.kind = .invalid)).map fun c =>
      (⟨.unknownFunction c.name, file, a.line, Suggest.didYouMean c.name functionNames⟩ :
        Diagnostic)
    let literal : List Diagnostic :=
      match a.value, acceptedLiterals a.prop with
      | .scalar (.str s), some ls => if s ∈ ls then [] else [⟨.badValue a.prop, file, a.line, ""⟩]
      | _, _ => []
    match acceptedKinds a.prop with
    | some ks =>
      if valueKind a.value ∈ ks then calls ++ literal
      else calls ++ [⟨.badValueType a.prop, file, a.line, ""⟩]
    | none => calls ++ literal

/-- The findings of the property type check; they name `defFile`. -/
def checkProperties (p : Program) (defFile : String) : List Diagnostic :=
  p.definition.components.flatMap fun c =>
    (if c.kind = .invalid then [⟨.unknownBase c.name, defFile, c.line, ""⟩] else []) ++
      c.assignments.flatMap (checkAssignment defFile)

end UiLang.Check
