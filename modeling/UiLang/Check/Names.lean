import UiLang.Check.Diagnostic
import UiLang.Program.Basic
import UiLang.Suggest.Closest

/-!
# Name resolution and parameter scope

Names must be declared before they are used. Reading the program in order —
components, then variables, then every view's entries — a component declares
its name, and a second component of that name is reported instead. A variable
whose name is taken is reported and not read further; otherwise every name its
instance reads must already be declared, and then the variable declares its
name. Every name a view entry reads must be declared. An undeclared name is
reported with a suggestion among the names declared so far, in declaration
order. Findings in the definition section name the definition file; from the
first view on, findings name the file of the view being read.

Parameter scope asks that every name assigned directly to a property of a
component be one of its parameters. Parameters are inferred from exactly those
names, so this check finds nothing in a built program.
-/

namespace UiLang.Check

/-- The state of name resolution: declared names in order, the file findings
are about, and the findings so far. -/
structure NameScope where
  declared : List String
  file : String
  found : List Diagnostic

namespace NameScope

/-- Records a finding about the current file. -/
def add (s : NameScope) (f : Finding) (line : Nat) (suggestion : String := "") : NameScope :=
  { s with found := s.found ++ [⟨f, s.file, line, suggestion⟩] }

/-- A use of name `u.1` on line `u.2`: undeclared names are reported. -/
def use (s : NameScope) (u : String × Nat) : NameScope :=
  if u.1 ∈ s.declared then s
  else s.add (.undefinedName u.1) u.2 (Suggest.didYouMean u.1 s.declared)

/-- The uses `us` in order. -/
def useAll (s : NameScope) (us : List (String × Nat)) : NameScope :=
  us.foldl use s

/-- A component declaration. -/
def declareComponent (s : NameScope) (c : Component) : NameScope :=
  if c.name ∈ s.declared then s.add (.duplicateComponent c.name) c.line
  else { s with declared := s.declared ++ [c.name] }

/-- A variable declaration: its instance is read before its name is declared. -/
def declareVariable (s : NameScope) (v : Variable) : NameScope :=
  if v.name ∈ s.declared then s.add (.duplicateVariable v.name) v.line
  else
    let s' := s.useAll v.inst.uses
    { s' with declared := s'.declared ++ [v.name] }

/-- A view: its file becomes the file of later findings, and its entries are
read. -/
def readView (s : NameScope) (v : View) : NameScope :=
  ({ s with file := v.name ++ ".view" }).useAll (v.usages.flatMap Usage.uses)

end NameScope

/-- The findings of name resolution; definition findings name `defFile`. -/
def checkNames (p : Program) (defFile : String) : List Diagnostic :=
  let s0 : NameScope := ⟨[], defFile, []⟩
  let s1 := p.definition.components.foldl NameScope.declareComponent s0
  let s2 := p.definition.vars.foldl NameScope.declareVariable s1
  (p.views.foldl NameScope.readView s2).found

/-- The names assigned directly to properties of a component. -/
def directNames (c : Component) : List (String × Nat) :=
  c.assignments.filterMap fun a =>
    match a.value with
    | .scalar (.var n _) => some (n, a.line)
    | _ => none

/-- The findings of parameter scope: a name assigned directly to a property
that is not in scope, where the scope holds the directly assigned names that
are parameters. -/
def checkParams (p : Program) (defFile : String) : List Diagnostic :=
  p.definition.components.flatMap fun c =>
    let scope := ((directNames c).map Prod.fst).filter (· ∈ c.params)
    (directNames c).filterMap fun (n, line) =>
      if n ∈ scope then none else some ⟨.undefinedParameter n, defFile, line, ""⟩

end UiLang.Check
