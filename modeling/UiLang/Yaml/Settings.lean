import UiLang.Yaml.Node
import UiLang.Config
import UiLang.Text.Quoted

/-!
# Reading the settings from the node graph

The document must be a mapping (or empty). Its keys are read as strings; the
values of `input`, `output` and `default_view` are read as strings into the
settings, and other keys are ignored. A null value leaves a setting as it is.

What does not fit is collected as a list of problems, reported together: a
collection where a string belongs, a key that appears twice in one mapping (a
mapping with such keys is read no further), a setting given twice. Some
problems stop the reading at once instead: a scalar whose text does not read
as its tag asks, base64 data that does not decode, a merge key whose value is
not a mapping or a list of mappings, an alias inside its own value, and a
document that expands aliases far more than it holds nodes.

A merge key `<<` adds the pairs of other mappings to the one it stands in, and
keys of that mapping win: before merging, the keys of the mapping are noted,
and a key noted already is skipped. Of several merged mappings, the first that
has a key wins.
-/

namespace UiLang.Yaml

/-- Where a value is read into. -/
inductive Target
  | settings
  | text
  deriving DecidableEq, Repr

/-- The name of a target's type in messages. -/
def Target.typeName : Target → String
  | .settings => "config.Config"
  | .text => "string"

/-- The state of reading the settings. -/
structure Reader where
  nodes : Array Node
  settings : Config := ⟨"", "", ""⟩
  /-- The problems found so far. -/
  problems : Array String := #[]
  /-- The aliases being expanded. -/
  expanding : List Nat := []
  decodeCount : Nat := 0
  aliasCount : Nat := 0
  aliasDepth : Nat := 0
  /-- The keys of the mapping being merged into, and of what was merged so
  far; `none` outside a merge. -/
  merged : Option (List String) := none
  deriving Inhabited

/-- Reading the settings; it stops with the message of a problem. -/
abbrev ReadM := StateT Reader (Except String)

namespace Reader

/-- Stops reading. -/
def stop {α : Type} (message : String) : ReadM α := throw ("yaml: " ++ message)

/-- The node at an index. -/
def nodeAt (i : Nat) : ReadM Node := do
  pure ((← get).nodes.getD i default)

/-- Notes a problem. -/
def note (problem : String) : ReadM Unit := modify fun d =>
  { d with problems := d.problems.push problem }

/-- A value as a message quotes it: at most seven bytes and `...` when it is
longer than ten bytes. -/
def quotedValue (s : String) : String :=
  if s.utf8ByteSize > 10 then " `" ++ takeBytes s 7 ++ "...`" else " `" ++ s ++ "`"

/-- Notes that a node does not fit a target; `tag` is the kind of the node when
it has no tag of its own. -/
def misfit (n : Node) (tag : String) (target : Target) : ReadM Unit :=
  let tag := if n.tag != "" then n.tag else tag
  let value := if tag != seqTag && tag != mapTag then quotedValue n.value else ""
  note ("line " ++ toString n.line ++ ": cannot unmarshal " ++ shortTag tag ++ value ++
    " into " ++ target.typeName)

/-- The share of decoded nodes that may come from aliases, as a fraction
`num / den`, for a document of `count` decoded nodes: 99 % up to 400 000 nodes,
falling evenly to 10 % at 4 000 000. -/
def allowedAliasShare (count : Nat) : Nat × Nat :=
  if count ≤ 400000 then (99, 100)
  else if count ≥ 4000000 then (10, 100)
  else (99 * 3600000 - 89 * (count - 400000), 360000000)

/-- Counts a node read, and stops when aliases expand too much. -/
def count : ReadM Unit := do
  let d ← get
  let d := { d with
    decodeCount := d.decodeCount + 1
    aliasCount := if d.aliasDepth > 0 then d.aliasCount + 1 else d.aliasCount }
  set d
  let (num, den) := allowedAliasShare d.decodeCount
  if d.aliasCount > 100 && d.decodeCount > 1000 && d.aliasCount * den > num * d.decodeCount then
    stop "document contains excessive aliasing"

/-- Whether a mapping's keys appear once each; notes every key given again. -/
def keysUnique (n : Node) : ReadM Bool := do
  let before := (← get).problems.size
  let keys := (List.range (n.content.size / 2)).map fun k => n.content.getD (2 * k) 0
  for (a, k) in keys.zipIdx do
    let na ← nodeAt a
    for b in keys.drop (k + 1) do
      let nb ← nodeAt b
      if na.kind == nb.kind && na.value == nb.value then
        note ("line " ++ toString nb.line ++ ": mapping key " ++ Text.quoted nb.value ++
          " already defined at line " ++ toString na.line)
  pure ((← get).problems.size == before)

/-- What a scalar reads as: its tag and value. A scalar tagged as a string
keeps its text; base64 data is decoded. -/
def scalarValue (n : Node) : ReadM Resolved := do
  if shortTag n.tag == strTag then return ⟨strTag, .text n.value⟩
  match resolve n.tag n.value with
  | .error e => stop e
  | .ok r =>
    if r.tag == binaryTag then
      match decodeBase64 n.value with
      | some bytes => pure ⟨binaryTag, .text (textOfBytes bytes)⟩
      | none => stop "!!binary value contains invalid base64 data"
    else pure r

/-- Whether a key is a merge key. -/
def isMergeKey (n : Node) : Bool :=
  n.kind == .scalar && n.value == "<<" && (n.tag == "" || n.tag == "!" || shortTag n.tag == mergeTag)

/-- Expands an alias: reads the node it stands for with `read`. An alias met
again inside its own value stops the reading. -/
def expand {α : Type} (i : Nat) (n : Node) (read : Nat → ReadM α) : ReadM α := do
  if (← get).expanding.contains i then
    stop ("anchor '" ++ n.value ++ "' value contains itself")
  modify fun d => { d with expanding := i :: d.expanding, aliasDepth := d.aliasDepth + 1 }
  let r ← read n.target
  modify fun d => { d with expanding := d.expanding.erase i, aliasDepth := d.aliasDepth - 1 }
  pure r

/-- Reads a node as a key of a mapping being merged into: the string it stands
for, if it stands for one. -/
def keyOf (fuel : Nat) (i : Nat) : ReadM (Option String) :=
  match fuel with
  | 0 => pure none
  | fuel + 1 => do
    count
    let n ← nodeAt i
    match n.kind with
    | .alias => expand i n (keyOf fuel)
    | .scalar =>
      let r ← scalarValue n
      if r.tag == timestampTag then return some n.value
      match r.value with
      | .text s => pure (some s)
      | _ => pure none
    | .mapping =>
      if ← keysUnique n then
        for c in n.content do
          let _ ← keyOf fuel c
      pure none
    | _ =>
      for c in n.content do
        let _ ← keyOf fuel c
      pure none

/-- Reads a node as a string: the string, or `none` when the node is null or
does not fit (then a problem is noted). -/
def textOf (fuel : Nat) (i : Nat) : ReadM (Option String) :=
  match fuel with
  | 0 => pure none
  | fuel + 1 => do
    count
    let n ← nodeAt i
    match n.kind with
    | .alias => expand i n (textOf fuel)
    | .scalar =>
      let r ← scalarValue n
      match r.value with
      | .null => pure none
      | .text s => pure (some (if r.tag == binaryTag then s else n.value))
      | .other => pure (some n.value)
    | .mapping =>
      if ← keysUnique n then misfit n mapTag .text
      pure none
    | _ =>
      misfit n seqTag .text
      pure none

/-- Sets the setting a key names, if it names one. -/
def setField (key value : String) : ReadM Unit := modify fun d =>
  let c := d.settings
  { d with settings :=
    if key == "input" then { c with input := value }
    else if key == "output" then { c with output := value }
    else if key == "default_view" then { c with defaultView := value }
    else c }

/-- The settings keys. -/
def fieldNames : List String := ["input", "output", "default_view"]

mutual

/-- Reads a node into the settings. -/
def intoSettings (fuel : Nat) (i : Nat) : ReadM Unit :=
  match fuel with
  | 0 => pure ()
  | fuel + 1 => do
    count
    let n ← nodeAt i
    match n.kind with
    | .document =>
      if n.content.size == 1 then intoSettings fuel (n.content.getD 0 0)
    | .alias => expand i n (intoSettings fuel)
    | .scalar =>
      let r ← scalarValue n
      if r.value != .null then misfit n r.tag .settings
    | .sequence => misfit n seqTag .settings
    | .mapping =>
      if ← keysUnique n then pairsIntoSettings fuel n

/-- Reads the pairs of a mapping into the settings, then what it merges. -/
def pairsIntoSettings (fuel : Nat) (n : Node) : ReadM Unit := do
  let mut done : List String := []
  let mut mergeValue : Option Nat := none
  for k in [0:n.content.size / 2] do
    let key ← nodeAt (n.content.getD (2 * k) 0)
    let value := n.content.getD (2 * k + 1) 0
    if isMergeKey key then
      mergeValue := some value
      continue
    let some name ← textOf fuel (n.content.getD (2 * k) 0) | continue
    match (← get).merged with
    | some seen =>
      if seen.contains name then continue
      modify fun d => { d with merged := some (name :: seen) }
    | none => pure ()
    if fieldNames.contains name then
      if done.contains name then
        note ("line " ++ toString key.line ++ ": field " ++ name ++
          " already set in type config.Config")
        continue
      done := name :: done
      if let some s ← textOf fuel value then setField name s
  if let some m := mergeValue then mergeInto fuel n m

/-- Merges the mapping (or mappings) a merge key gives into the settings. -/
def mergeInto (fuel : Nat) (parent : Node) (m : Nat) : ReadM Unit := do
  let saved := (← get).merged
  if saved.isNone then
    modify fun d => { d with merged := some [] }
    for k in [0:parent.content.size / 2] do
      if let some s ← keyOf fuel (parent.content.getD (2 * k) 0) then
        modify fun d => { d with merged := some (s :: (d.merged.getD [])) }
  let wantMap {α : Type} : ReadM α := stop "map merge requires map or sequence of maps as the value"
  let isMapping (j : Nat) : ReadM Bool := do
    let nj ← nodeAt j
    match nj.kind with
    | .mapping => pure true
    | .alias => pure ((← nodeAt nj.target).kind == .mapping)
    | _ => pure false
  let mn ← nodeAt m
  match mn.kind with
  | .mapping => intoSettings fuel m
  | .alias =>
    if !(← isMapping m) then wantMap
    intoSettings fuel m
  | .sequence =>
    for j in mn.content do
      if !(← isMapping j) then wantMap
      intoSettings fuel j
  | _ => wantMap
  if saved.isNone then modify fun d => { d with merged := none }

end

end Reader

/-- Reads the settings from a text: the settings it gives, `""` where it gives
none, or the message of what is wrong. -/
def readSettings (text : String) : Except String Config := do
  let (nodes, root) ← readGraph text
  match root with
  | none => pure ⟨"", "", ""⟩
  | some r =>
    let aliases := (nodes.toList.filter (·.kind == .alias)).length
    let fuel := (nodes.size + 1) * (aliases + 2)
    let ((), d) ← (Reader.intoSettings fuel r).run { nodes }
    if d.problems.isEmpty then pure d.settings
    else .error ("yaml: unmarshal errors:\n  " ++ "\n  ".intercalate d.problems.toList)

end UiLang.Yaml
