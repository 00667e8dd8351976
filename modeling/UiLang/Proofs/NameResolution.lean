import UiLang.Proofs.Declarations
import Mathlib.Data.List.Infix

/-!
# Name resolution is declare-before-use

`checkNames` walks the program with one scope that it updates as it goes. Read
as a whole, its report has a closed form, `declareBeforeUse`: each finding
depends only on the names declared before the place it is about. The names
declared so far, in declaration order, are the first occurrences of the names
of the earlier components and variables, since a second declaration of a name
adds a finding and declares nothing. A variable's own name joins the scope only
after its instance is read, and the findings of the views name the file of the
view they are in.

The run lemmas `foldl_declareComponent`, `foldl_declareVariable` and
`foldl_readView` carry the closed form through the three folds of
`checkNames`. Each rests on a one-step lemma and on
`firstOccurrences_append_singleton`, which says how one more declaration grows
the scope.
-/

namespace UiLang

/-! ## First occurrences -/

namespace firstOccurrences

theorem mem_go {x : String} : ∀ {seen : List String} {l : List String},
    x ∈ go seen l ↔ x ∉ seen ∧ x ∈ l
  | _, [] => by simp [go]
  | seen, y :: l => by
    by_cases hy : y ∈ seen
    · rw [go, if_pos hy, mem_go]
      constructor
      · rintro ⟨hx, hl⟩
        exact ⟨hx, List.mem_cons_of_mem y hl⟩
      · rintro ⟨hx, hl⟩
        rcases List.mem_cons.1 hl with rfl | hl
        · exact absurd hy hx
        · exact ⟨hx, hl⟩
    · rw [go, if_neg hy, List.mem_cons, mem_go, List.mem_cons, List.mem_cons]
      constructor
      · rintro (rfl | ⟨hx, hl⟩)
        · exact ⟨hy, Or.inl rfl⟩
        · exact ⟨fun h => hx (Or.inr h), Or.inr hl⟩
      · rintro ⟨hx, rfl | hl⟩
        · exact Or.inl rfl
        · by_cases hxy : x = y
          · exact Or.inl hxy
          · exact Or.inr ⟨fun h => h.elim hxy hx, hl⟩

/-- Walking one more element adds it when it is new to both `seen` and the
elements before it. -/
theorem go_append_singleton (x : String) : ∀ (seen l : List String),
    go seen (l ++ [x]) = go seen l ++ (if x ∈ seen ∨ x ∈ l then [] else [x])
  | seen, [] => by
    by_cases hx : x ∈ seen <;> simp [go, hx]
  | seen, y :: l => by
    by_cases hy : y ∈ seen
    · rw [List.cons_append, go, if_pos hy, go, if_pos hy, go_append_singleton x seen l]
      -- `x = y` already puts `x` in `seen`
      have hcond : (x ∈ seen ∨ x ∈ y :: l) ↔ (x ∈ seen ∨ x ∈ l) := by
        rw [List.mem_cons]
        constructor
        · rintro (h | rfl | h)
          · exact Or.inl h
          · exact Or.inl hy
          · exact Or.inr h
        · rintro (h | h)
          · exact Or.inl h
          · exact Or.inr (Or.inr h)
      simp only [hcond]
    · rw [List.cons_append, go, if_neg hy, go, if_neg hy, go_append_singleton x (y :: seen) l,
        List.cons_append]
      simp only [List.mem_cons, or_assoc, or_left_comm]

end firstOccurrences

/-- An element occurs among the first occurrences exactly when it occurs. -/
@[simp] theorem mem_firstOccurrences {x : String} {l : List String} :
    x ∈ firstOccurrences l ↔ x ∈ l := by
  simp [firstOccurrences, firstOccurrences.mem_go]

/-- **One more declaration** adds its name to the first occurrences unless it
was declared before. -/
theorem firstOccurrences_append_singleton (l : List String) (x : String) :
    firstOccurrences (l ++ [x]) =
      if x ∈ l then firstOccurrences l else firstOccurrences l ++ [x] := by
  unfold firstOccurrences
  rw [firstOccurrences.go_append_singleton]
  by_cases hx : x ∈ l <;> simp [hx]

namespace Check

/-! ## The rule -/

/-- Each element of a list with the elements before it. -/
def withEarlier {α : Type} (l : List α) : List (List α × α) := l.inits.zip l

@[simp] theorem withEarlier_nil {α : Type} : withEarlier ([] : List α) = [] := rfl

theorem withEarlier_cons {α : Type} (a : α) (l : List α) :
    withEarlier (a :: l) = ([], a) :: (withEarlier l).map fun (e, b) => (a :: e, b) := by
  simp only [withEarlier, List.inits_cons, List.zip_cons_cons, List.zip_map_left]
  rfl

/-- The uses of names that are not declared in `decl`, each reported in `file`
with a suggestion among `decl`. -/
def undeclaredUses (decl : List String) (file : String) (uses : List (String × Nat)) :
    List Diagnostic :=
  (uses.filter fun u => u.1 ∉ decl).map fun u =>
    ⟨.undefinedName u.1, file, u.2, Suggest.didYouMean u.1 decl⟩

/-- A component after the declarations of `before`: a name taken before is
reported, and its values are not read. -/
def componentFindings (file : String) (before : List String) (c : Component) :
    List Diagnostic :=
  if c.name ∈ before then [⟨.duplicateComponent c.name, file, c.line, ""⟩] else []

/-- A variable after the declarations of `before`: a name taken before is
reported and its instance is not read; otherwise every name the instance reads
must be among `before`. -/
def variableFindings (file : String) (before : List String) (v : Variable) :
    List Diagnostic :=
  if v.name ∈ before then [⟨.duplicateVariable v.name, file, v.line, ""⟩]
  else undeclaredUses (firstOccurrences before) file v.inst.uses

/-- **Declare before use.** Components, then variables, each judged by the names
declared before it; then every view, whose uses must be among all the
declared names. The scope is always the first occurrences of the names before. -/
def declareBeforeUse (p : Program) (defFile : String) : List Diagnostic :=
  let cs := p.definition.components
  let vs := p.definition.vars
  let compNames := cs.map (·.name)
  (withEarlier cs).flatMap (fun (e, c) => componentFindings defFile (e.map (·.name)) c) ++
    (withEarlier vs).flatMap
      (fun (e, v) => variableFindings defFile (compNames ++ e.map (·.name)) v) ++
    p.views.flatMap fun w =>
      undeclaredUses (firstOccurrences (compNames ++ vs.map (·.name))) (w.name ++ ".view")
        (w.usages.flatMap Usage.uses)

/-! ## The walk, step by step -/

namespace NameScope

/-- Reading names reports exactly the undeclared ones, in order. -/
theorem useAll_eq : ∀ (s : NameScope) (us : List (String × Nat)),
    s.useAll us = { s with found := s.found ++ undeclaredUses s.declared s.file us }
  | ⟨decl, file, found⟩, [] => by simp [useAll, undeclaredUses]
  | ⟨decl, file, found⟩, u :: us => by
    rw [useAll, List.foldl_cons, ← useAll]
    by_cases hu : u.1 ∈ decl
    · have hstep : use ⟨decl, file, found⟩ u = ⟨decl, file, found⟩ := by simp [use, hu]
      rw [hstep, useAll_eq]
      simp [undeclaredUses, hu]
    · have hstep : use ⟨decl, file, found⟩ u =
          ⟨decl, file, found ++ [⟨.undefinedName u.1, file, u.2, Suggest.didYouMean u.1 decl⟩]⟩ := by
        simp [use, hu, add]
      rw [hstep, useAll_eq]
      simp [undeclaredUses, hu]

/-- A component declaration, read against the names declared before it. -/
theorem declareComponent_eq {s : NameScope} {before : List String}
    (h : s.declared = firstOccurrences before) (c : Component) :
    declareComponent s c =
      { s with
        declared := firstOccurrences (before ++ [c.name])
        found := s.found ++ componentFindings s.file before c } := by
  have hmem : c.name ∈ s.declared ↔ c.name ∈ before := by rw [h, mem_firstOccurrences]
  rw [firstOccurrences_append_singleton, ← h]
  by_cases hc : c.name ∈ before
  · simp [declareComponent, componentFindings, hc, hmem.2 hc, add]
  · have hc' : c.name ∉ s.declared := fun h' => hc (hmem.1 h')
    simp [declareComponent, componentFindings, hc, hc']

/-- A variable declaration, read against the names declared before it. -/
theorem declareVariable_eq {s : NameScope} {before : List String}
    (h : s.declared = firstOccurrences before) (v : Variable) :
    declareVariable s v =
      { s with
        declared := firstOccurrences (before ++ [v.name])
        found := s.found ++ variableFindings s.file before v } := by
  have hmem : v.name ∈ s.declared ↔ v.name ∈ before := by rw [h, mem_firstOccurrences]
  rw [firstOccurrences_append_singleton, ← h]
  by_cases hv : v.name ∈ before
  · simp [declareVariable, variableFindings, hv, hmem.2 hv, add]
  · have hv' : v.name ∉ s.declared := fun h' => hv (hmem.1 h')
    simp only [declareVariable, variableFindings, hv, hv', if_false, ← h]
    rw [useAll_eq]

/-! ## The three folds -/

/-- **Components, one after another**, each against the names before it. -/
theorem foldl_declareComponent : ∀ (cs : List Component) (s : NameScope) (before : List String),
    s.declared = firstOccurrences before →
    cs.foldl declareComponent s =
      { s with
        declared := firstOccurrences (before ++ cs.map (·.name))
        found := s.found ++ (withEarlier cs).flatMap
          (fun (e, c) => componentFindings s.file (before ++ e.map (·.name)) c) }
  | [], s, before, h => by
    rw [List.foldl_nil, List.map_nil, List.append_nil, ← h]
    simp
  | c :: cs, s, before, h => by
    rw [List.foldl_cons, declareComponent_eq h c,
      foldl_declareComponent cs _ (before ++ [c.name]) rfl, withEarlier_cons]
    simp [List.append_assoc, List.flatMap_map]

/-- **Variables, one after another**, each against the names before it. -/
theorem foldl_declareVariable : ∀ (vs : List Variable) (s : NameScope) (before : List String),
    s.declared = firstOccurrences before →
    vs.foldl declareVariable s =
      { s with
        declared := firstOccurrences (before ++ vs.map (·.name))
        found := s.found ++ (withEarlier vs).flatMap
          (fun (e, v) => variableFindings s.file (before ++ e.map (·.name)) v) }
  | [], s, before, h => by
    rw [List.foldl_nil, List.map_nil, List.append_nil, ← h]
    simp
  | v :: vs, s, before, h => by
    rw [List.foldl_cons, declareVariable_eq h v,
      foldl_declareVariable vs _ (before ++ [v.name]) rfl, withEarlier_cons]
    simp [List.append_assoc, List.flatMap_map]

/-- **Views, one after another**: each reads its names against the same scope
and reports them in its own file. -/
theorem foldl_readView : ∀ (ws : List View) (s : NameScope),
    (ws.foldl readView s).found = s.found ++ ws.flatMap fun w =>
      undeclaredUses s.declared (w.name ++ ".view") (w.usages.flatMap Usage.uses)
  | [], s => by simp
  | w :: ws, s => by
    have hstep : readView s w =
        { s with
          file := w.name ++ ".view"
          found := s.found ++ undeclaredUses s.declared (w.name ++ ".view")
            (w.usages.flatMap Usage.uses) } := by
      rw [readView, useAll_eq]
    rw [List.foldl_cons, foldl_readView ws, hstep]
    simp [List.append_assoc]

end NameScope

/-- **Name resolution is declare-before-use.** The report of `checkNames` is the
closed form `declareBeforeUse`: a component or variable whose name is already
declared is reported at its line; the instance of a new variable must use only
names declared before the variable itself; every view uses the names of the
whole definition section. Undeclared names come with a suggestion among the
names declared so far in declaration order, and are reported in the definition
file or in the file of the view they are in. -/
theorem checkNames_eq_declareBeforeUse (p : Program) (defFile : String) :
    checkNames p defFile = declareBeforeUse p defFile := by
  obtain ⟨⟨cs, vs⟩, views, start⟩ := p
  have h1 := NameScope.foldl_declareComponent cs ⟨[], defFile, []⟩ [] rfl
  simp only [List.nil_append] at h1
  have h2 := NameScope.foldl_declareVariable vs
    (cs.foldl NameScope.declareComponent ⟨[], defFile, []⟩) (cs.map (·.name)) (by rw [h1])
  simp only [checkNames, declareBeforeUse]
  rw [NameScope.foldl_readView, h2]
  simp [h1, List.append_assoc]

end Check

end UiLang
