import UiLang.Proofs.Failures
import UiLang.Check.Analyze

/-!
# The default view, at check time and at generation

Two places look for the view a program starts with. The check-time warning
(`Check.missingDefaultView`) searches the views for the default view as the
program names it. Generation (`Jsx.generate`) first puts `Main` in place of an
empty default view and then searches. Generation fails on a missing start view
with `missingDefaultView`, naming `<start>.view`, and no later stage fails that
way (`generate_missingDefaultView_iff`), as hoisting fails only on a missing
property and rendering never on a view.

For a named default view the two agree: the warning is given exactly when
generation fails on the start view, and both name the same file
(`missingDefaultView_agrees`). The command line never hands over an empty
default view, since its settings refuse one; for such a program the warning
looks for a view named `""` while generation looks for `Main`
(`unnamedDefault_warns_but_generates`).
-/

namespace UiLang

open Check Jsx

/-- **Generation fails on the start view exactly when no view has its name,**
and the failure names `<start>.view`. -/
theorem generate_missingDefaultView_iff {p : Program} {f : String} :
    generate p = .error (.missingDefaultView f) ↔
      p.views.any (·.name == Program.startView p) = false ∧ f = Program.startView p ++ ".view" := by
  rw [generate_eq_error]
  constructor
  · rintro (⟨hv, he⟩ | ⟨-, hh | ⟨cells, d', -, hd | ⟨defs, -, hvs⟩⟩⟩)
    · exact ⟨hv, GenError.missingDefaultView.inj he⟩
    · -- hoisting fails only on a missing property
      obtain ⟨m, -, he⟩ := hoist_eq_error_iff.1 hh
      cases he
    · exact (renderDefinition_error hd).elim
    · obtain ⟨v, -, hv⟩ := Except.mapM_eq_error hvs
      exact (renderView_error hv).elim
  · rintro ⟨hv, rfl⟩
    exact .inl ⟨hv, rfl⟩

/-- The warning names the default view's file exactly when no view has the
default view's name. -/
theorem missingDefaultView_ne_empty_iff {p : Program} :
    missingDefaultView p ≠ "" ↔ p.views.any (·.name == p.defaultView) = false := by
  unfold missingDefaultView
  cases p.views.any (·.name == p.defaultView)
  · -- a file name ends in `.view`, so it is never empty
    have hne : p.defaultView ++ ".view" ≠ "" := by
      intro h
      have := congrArg String.length h
      simp at this
    simp [hne]
  · simp

theorem Program.startView_of_ne {p : Program} (h : p.defaultView ≠ "") :
    Program.startView p = p.defaultView := by
  simp [Program.startView, h]

/-- **The check-time warning agrees with generation.** For a program that
names its default view `V`, the warning is not empty exactly when generation
fails on the start view, and then both name `V.view`. -/
theorem missingDefaultView_agrees {p : Program} (h : p.defaultView ≠ "") (f : String) :
    (generate p = .error (.missingDefaultView f) ↔ missingDefaultView p ≠ "" ∧ f = missingDefaultView p) ∧
      (missingDefaultView p ≠ "" → missingDefaultView p = p.defaultView ++ ".view") := by
  have hstart := Program.startView_of_ne h
  have hfile : missingDefaultView p ≠ "" → missingDefaultView p = p.defaultView ++ ".view" := by
    intro hne
    simp [missingDefaultView, missingDefaultView_ne_empty_iff.1 hne]
  refine ⟨?_, hfile⟩
  rw [generate_missingDefaultView_iff, hstart, missingDefaultView_ne_empty_iff]
  constructor
  · rintro ⟨hv, rfl⟩
    exact ⟨hv, (hfile (missingDefaultView_ne_empty_iff.2 hv)).symm⟩
  · rintro ⟨hv, rfl⟩
    exact ⟨hv, hfile (missingDefaultView_ne_empty_iff.2 hv)⟩

/-- A program with one view, `Main`, that starts at a view `Home`. -/
def homeDefault : Program :=
  { definition := { components := [], vars := [] }, views := [⟨"Main", []⟩], defaultView := "Home" }

theorem homeDefault_missing_in_both :
    homeDefault.defaultView ≠ "" ∧ missingDefaultView homeDefault = "Home.view" ∧
      generate homeDefault = .error (.missingDefaultView "Home.view") :=
  have hwarn : missingDefaultView homeDefault = "Home.view" := rfl
  ⟨by decide, hwarn,
    ((missingDefaultView_agrees (by decide) "Home.view").1.2 ⟨by rw [hwarn]; decide, hwarn.symm⟩)⟩

/-- A program with one view, `Main`, that names no default view. -/
def unnamedDefault : Program :=
  { definition := { components := [], vars := [] }, views := [⟨"Main", []⟩], defaultView := "" }

/-- **An unnamed default view is warned about but generated:** the warning looks
for a view named `""` and names `.view`, while generation starts at `Main`,
which exists. -/
theorem unnamedDefault_warns_but_generates :
    missingDefaultView unnamedDefault = ".view" ∧
      ∀ f, generate unnamedDefault ≠ .error (.missingDefaultView f) := by
  refine ⟨rfl, fun f h => ?_⟩
  have hv := (generate_missingDefaultView_iff.1 h).1
  exact absurd hv (by decide)

end UiLang
