import UiLang.Yaml.Event.Grammar
import UiLang.Yaml.Resolve

/-!
# The node graph of a document

The events of the first document become a graph of nodes. The nodes are kept
in an array and refer to each other by index: a collection lists its children,
an alias names the node its anchor stands for. An anchor is known from the
node that carries it on, its children included, so an alias inside an anchored
collection may stand for that very collection; a later anchor of the same name
hides an earlier one.

Every node gets a tag. An explicit tag is kept in its short form (the
non-specific tag `!` counts as none); otherwise a quoted or block scalar is a
string, a plain `<<` is a merge key, a collection is a sequence or a mapping,
and any other plain scalar has the tag its text resolves to. A node's line
counts from 1.
-/

namespace UiLang.Yaml

/-- What a node is. -/
inductive NodeKind
  | document
  | sequence
  | mapping
  | scalar
  | alias
  deriving DecidableEq, Repr, Inhabited

/-- A node of the graph. -/
structure Node where
  kind : NodeKind
  tag : String
  value : String
  line : Nat
  /-- The children, by index: the pairs of a mapping key first. -/
  content : Array Nat := #[]
  /-- For an alias, the node it stands for. -/
  target : Nat := 0
  deriving Repr, Inhabited

/-- The tag a new node gets, from its explicit tag, the default of its kind and
style, and its text. -/
def nodeTag (kind : NodeKind) (defaultTag tag value : String) : String :=
  if tag != "" && tag != "!" then shortTag tag
  else if defaultTag != "" then defaultTag
  else if kind == .scalar then (resolvePlain value).tag
  else ""

/-- The state of building the graph. -/
structure Builder where
  parser : Parser
  /-- The next event, when it has been read but not used. -/
  pending : Option Event := none
  nodes : Array Node := #[]
  /-- The anchors met so far, the latest first. -/
  anchors : List (String × Nat) := []
  deriving Inhabited

/-- Building the graph; it stops with the message of a problem. -/
abbrev BuildM := StateT Builder (Except String)

namespace Builder

/-- The next event, not used yet. -/
def peek : BuildM Event := do
  let c ← get
  match c.pending with
  | some e => pure e
  | none =>
    match Parser.nextEvent.run c.parser with
    | .ok (e, p) =>
      let e := e.getD ⟨.streamEnd, p.scanner.mark⟩
      set { c with parser := p, pending := some e }
      pure e
    | .error problem => throw problem.message

/-- Uses the next event. -/
def take : BuildM Unit := modify fun c => { c with pending := none }

/-- Adds a node, and returns its index. -/
def addNode (n : Node) : BuildM Nat := do
  let c ← get
  set { c with nodes := c.nodes.push n }
  pure c.nodes.size

/-- Lets an anchor name a node. -/
def addAnchor (anchor : Option String) (i : Nat) : BuildM Unit :=
  match anchor with
  | some name => modify fun c => { c with anchors := (name, i) :: c.anchors }
  | none => pure ()

/-- Adds a child to a collection. -/
def addChild (parent child : Nat) : BuildM Unit := modify fun c =>
  { c with nodes := c.nodes.modify parent fun n => { n with content := n.content.push child } }

/-- The events a collection may hold at most, for a text of `size` characters. -/
def eventBound (size : Nat) : Nat := 4 * (size + 16)

/-- Builds the node that starts at the next event, with its children; `none` at
the end of the stream. -/
def node (bound : Nat) : Nat → BuildM (Option Nat)
  | 0 => throw "yaml: exceeded max depth"
  | fuel + 1 => do
    let e ← peek
    let line := e.start.line + 1
    match e.kind with
    | .scalar anchor tag text style =>
      let defaultTag :=
        if style == .plain then (if text == "<<" then mergeTag else "") else strTag
      let i ← addNode ⟨.scalar, nodeTag .scalar defaultTag tag text, text, line, #[], 0⟩
      addAnchor anchor i
      take
      pure (some i)
    | .alias name =>
      match (← get).anchors.lookup name with
      | none => throw ("yaml: unknown anchor '" ++ name ++ "' referenced")
      | some target =>
        let i ← addNode ⟨.alias, "", name, line, #[], target⟩
        take
        pure (some i)
    | .sequenceStart anchor tag _ =>
      let i ← addNode ⟨.sequence, nodeTag .sequence seqTag tag "", "", line, #[], 0⟩
      addAnchor anchor i
      take
      for _ in [0:bound] do
        if (← peek).kind == .sequenceEnd then break
        if let some child ← node bound fuel then addChild i child
      take
      pure (some i)
    | .mappingStart anchor tag _ =>
      let i ← addNode ⟨.mapping, nodeTag .mapping mapTag tag "", "", line, #[], 0⟩
      addAnchor anchor i
      take
      for _ in [0:bound] do
        if (← peek).kind == .mappingEnd then break
        if let some child ← node bound fuel then addChild i child
      take
      pure (some i)
    | .documentStart =>
      let i ← addNode ⟨.document, "", "", line, #[], 0⟩
      take
      if let some child ← node bound fuel then addChild i child
      let _ ← peek
      take
      pure (some i)
    | _ => pure none

end Builder

/-- The node graph of the first document of a text, and the index of its
document node; no index when the text holds no document. An empty text reads
as a single line break. -/
def readGraph (text : String) : Except String (Array Node × Option Nat) := do
  let text := if text.isEmpty then "\n" else text
  let input := Input.ofString text
  let bound := Builder.eventBound input.chars.size
  let start : Builder := { parser := { scanner := { input } } }
  let run : BuildM (Option Nat) := do
    let _ ← Builder.peek
    Builder.take
    Builder.node bound (input.chars.size + 16)
  let (root, c) ← run.run start
  pure (c.nodes, root)

end UiLang.Yaml
