import UiLang.Yaml.Token

/-!
# Events of YAML text

The parser turns tokens into a stream of events: the start and end of the
stream, of each document and of each collection, scalars and aliases. A node
event carries its anchor and its tag, resolved against the document's tag
directives to a full tag, or `""` when it has none.
-/

namespace UiLang.Yaml

/-- What an event is. -/
inductive EventKind
  | streamStart
  | streamEnd
  | documentStart
  | documentEnd
  | alias (name : String)
  | scalar (anchor : Option String) (tag text : String) (style : ScalarStyle)
  | sequenceStart (anchor : Option String) (tag : String) (flow : Bool)
  | sequenceEnd
  | mappingStart (anchor : Option String) (tag : String) (flow : Bool)
  | mappingEnd
  deriving Repr, Inhabited, DecidableEq

/-- An event and the place where it starts. -/
structure Event where
  kind : EventKind
  start : Mark
  deriving Repr, Inhabited

end UiLang.Yaml
