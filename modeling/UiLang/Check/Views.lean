import UiLang.Check.Diagnostic
import UiLang.Program.Basic
import UiLang.Suggest.Closest

/-!
# View references

Every view that a component passes to a function, as `V.view`, must be one of
the program's views. A missing one is reported at the line of the assignment,
with a suggestion among the view files in program order.
-/

namespace UiLang.Check

/-- The findings of the view reference check; they name `defFile`. -/
def checkViews (p : Program) (defFile : String) : List Diagnostic :=
  let names := p.views.map (·.name)
  let files := p.views.map (·.name ++ ".view")
  p.definition.components.flatMap fun c =>
    c.assignments.flatMap fun a =>
      a.value.viewRefs.filterMap fun v =>
        if v ∈ names then none
        else some ⟨.missingView (v ++ ".view"), defFile, a.line,
          Suggest.didYouMean (v ++ ".view") files⟩

end UiLang.Check
