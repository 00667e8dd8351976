import UiLang.Proofs.Generate
import UiLang.Check.Analyze

/-!
# The names an App declares

The App binds names with `const` from four sources: each state cell's read
name and setter, each component, each variable, and each view's page
(`appBindings`). Only two of these are kept apart by design. Name resolution
reports a second component or variable of a name already declared, so in a
program that passes the checks no two components and variables share a name
(`checkNames_eq_nil_nodup`); and hoisting gives every cell a name of its own
(`hoist_names_nodup`). Together, `accepted_declarations_apart`.

Nothing keeps the four sources apart from each other. The cell of `SetPic.width`
is `setPicWidth`, the setter of the cell of `Pic.width`; a component named
`MainPage` has the name of the page of view `Main`; a variable `picWidth` has
the name of a cell (`accepted_bindings_can_clash`).

Name resolution is a fold over the declarations. Each declaration only adds
findings, and when it adds none it declares a name not declared before
(`NameScope.Declares`); the run lemma `NameScope.Declares.foldl_clean` carries
that over the whole fold.
-/

namespace UiLang

namespace Check

/-- **A program passes the checks exactly when no check finds anything.** -/
theorem analyze_eq_none {p : Program} {defFile : String} :
    analyze p defFile = none ↔ ∀ pass ∈ Pass.all, pass.run p defFile = [] := by
  unfold analyze
  rw [List.findSome?_eq_none_iff]
  constructor
  · intro h pass hp
    have hnone := h pass hp
    cases hr : pass.run p defFile with
    | nil => rfl
    | cons d ds => simp [hr] at hnone
  · intro h pass hp
    simp [h pass hp]

/-- Each check finds nothing in a program that passes them all. -/
theorem run_eq_nil_of_analyze {p : Program} {defFile : String} (h : analyze p defFile = none)
    (pass : Pass) : pass.run p defFile = [] :=
  analyze_eq_none.1 h pass (by cases pass <;> simp [Pass.all])

namespace NameScope

@[simp] theorem found_add (s : NameScope) (f : Finding) (line : Nat) (sug : String) :
    (s.add f line sug).found = s.found ++ [⟨f, s.file, line, sug⟩] := rfl

/-- Reading a name declares nothing. -/
theorem useAll_declared : ∀ (s : NameScope) (us : List (String × Nat)),
    (s.useAll us).declared = s.declared
  | _, [] => rfl
  | s, u :: us => by
    have hu : (s.use u).declared = s.declared := by
      unfold use
      split <;> rfl
    rw [useAll, List.foldl_cons, ← useAll, useAll_declared, hu]

/-- A step of name resolution that only adds findings. -/
def Grows {α : Type} (step : NameScope → α → NameScope) : Prop :=
  ∀ s x, s.found <+: (step s x).found

/-- A fold of such steps only adds findings. -/
theorem Grows.foldl {α : Type} {step : NameScope → α → NameScope} (hg : Grows step) :
    ∀ (xs : List α) (s : NameScope), s.found <+: (xs.foldl step s).found
  | [], _ => List.prefix_refl _
  | x :: xs, s => (hg s x).trans (hg.foldl xs (step s x))

theorem use_grows : Grows use := by
  intro s u
  unfold use
  split
  · exact List.prefix_refl _
  · exact List.prefix_append _ _

theorem readView_grows : Grows readView :=
  fun s v => use_grows.foldl _ { s with file := v.name ++ ".view" }

/-- A declaration step: it only adds findings, and when it adds none it
declares `name x`, which was not declared before. -/
structure Declares {α : Type} (step : NameScope → α → NameScope) (name : α → String) : Prop where
  grows : Grows step
  clean : ∀ s x, (step s x).found = [] →
    name x ∉ s.declared ∧ (step s x).declared = s.declared ++ [name x]

/-- **A clean run of declarations declares each name once,** in order, after
the names declared before it. -/
theorem Declares.foldl_clean {α : Type} {step : NameScope → α → NameScope} {name : α → String}
    (hd : Declares step name) : ∀ (xs : List α) (s : NameScope),
    (xs.foldl step s).found = [] → s.declared.Nodup →
      s.found = [] ∧ (xs.foldl step s).declared = s.declared ++ xs.map name ∧
        (s.declared ++ xs.map name).Nodup
  | [], s, h, hnd => by simpa using ⟨h, hnd⟩
  | x :: xs, s, h, hnd => by
    -- the findings after the first step are a prefix of the final, empty ones
    have hstep : (step s x).found = [] :=
      List.prefix_nil.1 (h ▸ hd.grows.foldl xs (step s x))
    obtain ⟨hfresh, hdecl⟩ := hd.clean s x hstep
    have hnd' : (step s x).declared.Nodup := by
      rw [hdecl, List.nodup_append]
      refine ⟨hnd, List.nodup_singleton _, fun a ha b hb hab => ?_⟩
      rw [List.mem_singleton] at hb
      rw [hab, hb] at ha
      exact hfresh ha
    obtain ⟨-, hfold, hall⟩ := hd.foldl_clean xs (step s x) h hnd'
    rw [hdecl, List.append_assoc] at hfold hall
    refine ⟨?_, hfold, hall⟩
    exact List.prefix_nil.1 (hstep ▸ hd.grows s x)

theorem declareComponent_declares : Declares declareComponent Component.name where
  grows s c := by
    unfold declareComponent
    split
    · exact List.prefix_append _ _
    · exact List.prefix_refl _
  clean s c h := by
    by_cases hc : c.name ∈ s.declared
    · simp [declareComponent, hc] at h
    · exact ⟨hc, by simp [declareComponent, hc]⟩

theorem declareVariable_declares : Declares declareVariable Variable.name where
  grows s v := by
    unfold declareVariable
    split
    · exact List.prefix_append _ _
    · exact use_grows.foldl v.inst.uses s
  clean s v h := by
    by_cases hv : v.name ∈ s.declared
    · simp [declareVariable, hv] at h
    · refine ⟨hv, ?_⟩
      simp only [declareVariable, hv, if_false]
      rw [useAll_declared]

end NameScope

/-- **Clean name resolution keeps components and variables apart:** no two of
them share a name. -/
theorem checkNames_eq_nil_nodup {p : Program} {defFile : String} (h : checkNames p defFile = []) :
    (p.definition.components.map (·.name) ++ p.definition.vars.map (·.name)).Nodup := by
  let s0 : NameScope := ⟨[], defFile, []⟩
  let s1 := p.definition.components.foldl NameScope.declareComponent s0
  let s2 := p.definition.vars.foldl NameScope.declareVariable s1
  have hviews : (p.views.foldl NameScope.readView s2).found = [] := h
  -- reading the views and declaring the variables add findings only, so the
  -- components were declared cleanly
  have h2 : s2.found = [] := List.prefix_nil.1 (hviews ▸ NameScope.readView_grows.foldl p.views s2)
  have h1 : s1.found = [] :=
    List.prefix_nil.1 (h2 ▸ NameScope.declareVariable_declares.grows.foldl p.definition.vars s1)
  obtain ⟨-, hs1, hnd1⟩ :=
    NameScope.declareComponent_declares.foldl_clean p.definition.components s0 h1 List.nodup_nil
  obtain ⟨-, -, hnd⟩ :=
    NameScope.declareVariable_declares.foldl_clean p.definition.vars s1 h2 (hs1 ▸ hnd1)
  rwa [hs1, List.nil_append] at hnd

end Check

namespace Jsx

/-- The names the App binds with `const`, in order: each cell's read name and
setter, each component, each variable, and the page of each view. -/
def appBindings (cells : List Cell) (p : Program) : List String :=
  cells.flatMap (fun c => [c.name, c.setter]) ++ p.definition.components.map (·.name) ++
    p.definition.vars.map (·.name) ++ p.views.map (fun v => pageName v.name)

/-- **Declarations kept apart.** When a program passes the checks and its App is
generated, no two of its components and variables share a name, and no two of
its state cells share a read name. -/
theorem accepted_declarations_apart {p : Program} {defFile out : String}
    (hchk : Check.analyze p defFile = none) (hgen : generate p = .ok out) :
    (p.definition.components.map (·.name) ++ p.definition.vars.map (·.name)).Nodup ∧
      ∃ cells d', hoist p.definition (Program.startView p) = .ok (cells, d') ∧
        (cells.map Cell.name).Nodup := by
  have hnames : Check.checkNames p defFile = [] := Check.run_eq_nil_of_analyze hchk .names
  obtain ⟨-, cells, d', -, -, hh, -, -, -⟩ := generate_eq_ok.1 hgen
  exact ⟨Check.checkNames_eq_nil_nodup hnames, cells, d', hh, hoist_names_nodup hh⟩

/-- A picture, a button that doubles its width, and a variable holding the
button; the view shows the variable and the picture. -/
def widenedPicture : Program where
  definition :=
    { components :=
        [{ kind := .picture, name := "A", line := 1, params := [],
           assignments := [⟨"width", .scalar (.num 120), 2⟩] },
         { kind := .button, name := "Grow", line := 4, params := [],
           assignments := [⟨"onclick", .call ⟨.setProperty, "set",
             [.member ⟨"A", 5, "width"⟩, .scalar (.arith (.member ⟨"A", 5, "width"⟩) [(.mul, .num 2)])]⟩,
             5⟩] }]
      vars := [⟨"grow", 7, ⟨"Grow", 7, []⟩⟩] }
  views := [⟨"Main", [.ref "grow" 1, .ref "A" 2]⟩]
  defaultView := ""

theorem widenedPicture_declarations_apart :
    Check.analyze widenedPicture "App.def" = none ∧ ∃ out, generate widenedPicture = .ok out ∧
      (widenedPicture.definition.components.map (·.name) ++
        widenedPicture.definition.vars.map (·.name)).Nodup ∧
      ∃ cells d', hoist widenedPicture.definition (Program.startView widenedPicture) = .ok (cells, d') ∧
        (cells.map Cell.name).Nodup := by
  have hchk : Check.analyze widenedPicture "App.def" = none := by decide
  obtain ⟨out, hout⟩ : ∃ out, generate widenedPicture = .ok out := ⟨_, rfl⟩
  exact ⟨hchk, out, hout, accepted_declarations_apart hchk hout⟩

/-- Two pictures `Pic` and `SetPic`, a button named like the page of view
`Main` that sets both widths, and a variable named like the cell of
`Pic.width`. -/
def clashingNames : Program where
  definition :=
    { components :=
        [{ kind := .picture, name := "Pic", line := 1, params := [],
           assignments := [⟨"width", .scalar (.num 1), 2⟩] },
         { kind := .picture, name := "SetPic", line := 4, params := [],
           assignments := [⟨"width", .scalar (.num 2), 5⟩] },
         { kind := .button, name := "MainPage", line := 7, params := [],
           assignments := [⟨"onclick", .calls
             [⟨.setProperty, "set", [.member ⟨"Pic", 8, "width"⟩, .scalar (.num 5)]⟩,
              ⟨.setProperty, "set", [.member ⟨"SetPic", 8, "width"⟩, .scalar (.num 6)]⟩], 8⟩] }]
      vars := [⟨"picWidth", 10, ⟨"Pic", 10, []⟩⟩] }
  views := [⟨"Main", [.ref "MainPage" 1, .ref "picWidth" 2]⟩]
  defaultView := ""

/-- **Bindings can clash.** `clashingNames` passes the checks and its App is
generated, yet the App binds `setPicWidth` twice (the setter of the cell of
`Pic.width` and the cell of `SetPic.width`), and also `MainPage` and
`picWidth`. -/
theorem accepted_bindings_can_clash :
    Check.analyze clashingNames "App.def" = none ∧ (∃ out, generate clashingNames = .ok out) ∧
      ∃ cells d', hoist clashingNames.definition "Main" = .ok (cells, d') ∧
        ¬ (appBindings cells clashingNames).Nodup :=
  ⟨by decide, ⟨_, rfl⟩, _, _, rfl, by decide⟩

end Jsx

end UiLang
