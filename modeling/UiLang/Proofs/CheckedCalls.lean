import UiLang.Proofs.Failures
import UiLang.Proofs.Declarations

/-!
# What the checks promise of calls

The property type check reports every call in a component's assignments whose
function is unknown (`Check.checkProperties_eq_nil`), and the view reference
check every `V.view` there that is not a view of the program
(`Check.checkViews_eq_nil_iff`). Both walk the components only: the arguments
of `Comp WITH a = v AS x` are rendered like assignments but never checked. So
in a program that passes the checks, the components call only `set` and `open`
and open only views of the program, and the one way left for generation to fail
on an unknown function is a call in a variable's argument (`CheckedCalls`,
`accepted_calls_checked`). A variable's argument may also open a view the
program does not have, and the App then switches to it
(`accepted_variable_opens_missing_view`).
-/

namespace UiLang

/-- The views named as `V.view` in the components' assignments. -/
def Definition.componentViewRefs (d : Definition) : List String :=
  d.components.flatMap (·.assignments.flatMap (·.value.viewRefs))

/-- A call names a view exactly when it takes it as an argument. -/
theorem Value.mem_viewRefs_call {c : Call} {n : String} :
    n ∈ (Value.call c).viewRefs ↔ Arg.view n ∈ c.args := by
  obtain ⟨kind, name, args⟩ := c
  induction args with
  | nil => simp [Value.viewRefs]
  | cons a args ih =>
    simp only [Value.viewRefs, List.flatMap_cons, List.mem_append, List.mem_cons] at ih ⊢
    rw [ih]
    cases a <;> simp

/-- A value names a view exactly when one of its calls takes it as an argument. -/
theorem Value.mem_viewRefs {v : Value} {n : String} :
    n ∈ v.viewRefs ↔ ∃ c ∈ v.allCalls, Arg.view n ∈ c.args := by
  cases v with
  | scalar s => simp [Value.viewRefs, Value.allCalls]
  | list items => simp [Value.viewRefs, Value.allCalls]
  | calls items =>
    -- a list of calls names the views of each of its calls
    have hviews : (Value.calls items).viewRefs = items.flatMap fun c => (Value.call c).viewRefs := rfl
    rw [hviews, List.mem_flatMap]
    simp only [mem_viewRefs_call, Value.allCalls]
  | call c =>
    rw [mem_viewRefs_call]
    simp [Value.allCalls]

namespace Check

/-- **A clean assignment calls only known functions.** Its property is known,
so its value was examined, and every unknown function in it is a finding. -/
theorem checkAssignment_eq_nil {file : String} {a : Assignment} (h : checkAssignment file a = []) :
    ∀ c ∈ a.value.allCalls, c.kind ≠ .invalid := by
  intro c hc hk
  -- the findings open with the unknown functions, whatever follows them
  have hcalls : (a.value.allCalls.filter (·.kind = .invalid)).map (fun c =>
      (⟨.unknownFunction c.name, file, a.line, Suggest.didYouMean c.name functionNames⟩ :
        Diagnostic)) = [] := by
    simp only [checkAssignment] at h
    split at h
    · cases h
    · split at h
      · split at h <;> exact (List.append_eq_nil_iff.1 h).1
      · exact (List.append_eq_nil_iff.1 h).1
  have hmem : c ∈ a.value.allCalls.filter (·.kind = .invalid) := List.mem_filter.2 ⟨hc, by simp [hk]⟩
  rw [List.map_eq_nil_iff] at hcalls
  rw [hcalls] at hmem
  exact List.not_mem_nil hmem

/-- **A clean property check leaves no unknown function in a component.** -/
theorem checkProperties_eq_nil {p : Program} {defFile : String} (h : checkProperties p defFile = []) :
    ∀ c ∈ p.definition.componentCalls, c.kind ≠ .invalid := by
  intro c hc
  obtain ⟨comp, hcomp, hc⟩ := List.mem_flatMap.1 hc
  obtain ⟨a, ha, hc⟩ := List.mem_flatMap.1 hc
  have hcomp' := List.flatMap_eq_nil_iff.1 h comp hcomp
  have hassign := List.flatMap_eq_nil_iff.1 (List.append_eq_nil_iff.1 hcomp').2 a ha
  exact checkAssignment_eq_nil hassign c hc

/-- **The view reference check is clean exactly when every view a component
names is a view of the program.** -/
theorem checkViews_eq_nil_iff {p : Program} {defFile : String} :
    checkViews p defFile = [] ↔ ∀ v ∈ p.definition.componentViewRefs, v ∈ p.views.map View.name := by
  simp only [checkViews, Definition.componentViewRefs, List.flatMap_eq_nil_iff,
    List.filterMap_eq_nil_iff, List.mem_flatMap]
  constructor
  · rintro h v ⟨comp, hcomp, a, ha, hv⟩
    have hnone := h comp hcomp a ha v hv
    by_cases hn : v ∈ p.views.map View.name
    · exact hn
    · simp [hn] at hnone
  · intro h comp hcomp a ha v hv
    simp [h v ⟨comp, hcomp, a, ha, hv⟩]

end Check

namespace Jsx

/-- **An `open` call that renders switches to the view it names.** -/
theorem renderCall_open_eq_ok {cells : List Cell} {c : Call} {s : String} (hk : c.kind = .openView)
    (h : renderCall cells .definition c = .ok s) :
    ∃ n, c.args = [.view n] ∧ s = setterName viewCell ++ "(\"" ++ n ++ "\");" := by
  simp only [renderCall, hk] at h
  split at h
  · rename_i n hargs
    cases h
    exact ⟨n, hargs, rfl⟩
  · cases h
  · cases h

/-- What the checks promise of the calls of a program that passes them. -/
structure CheckedCalls (p : Program) : Prop where
  /-- Every call in a component is of `set` or `open`. -/
  component_calls_known : ∀ c ∈ p.definition.componentCalls, c.kind ≠ .invalid
  /-- Every view a component names is a view of the program. -/
  component_views_exist : ∀ v ∈ p.definition.componentViewRefs, v ∈ p.views.map View.name
  /-- Every `open` call in a component that renders switches to a view of the
  program, whatever the cells. -/
  component_opens_views : ∀ (cells : List Cell), ∀ c ∈ p.definition.componentCalls,
    c.kind = .openView → ∀ s, renderCall cells .definition c = .ok s →
      ∃ v ∈ p.views.map View.name, s = setterName viewCell ++ "(\"" ++ v ++ "\");"
  /-- Generation fails on an unknown function only at a call of that name in a
  variable's argument. -/
  unknown_in_variable : ∀ n, generate p = .error (.unknownFunction n) →
    ∃ c ∈ p.definition.variableCalls, c.kind = .invalid ∧ c.name = n

/-- **Checked calls.** In a program that passes the checks, the components call
only `set` and `open` and name only views of the program, every `open` of a
component switches to such a view, and an unknown function can stop generation
only from a variable's argument. -/
theorem accepted_calls_checked {p : Program} {defFile : String} (hchk : Check.analyze p defFile = none) :
    CheckedCalls p := by
  have hprops : Check.checkProperties p defFile = [] := Check.run_eq_nil_of_analyze hchk .properties
  have hviews : Check.checkViews p defFile = [] := Check.run_eq_nil_of_analyze hchk .views
  have hknown := Check.checkProperties_eq_nil hprops
  have hexist := Check.checkViews_eq_nil_iff.1 hviews
  refine ⟨hknown, hexist, ?_, ?_⟩
  · -- the view an open call renders is one its component names
    intro cells c hc hk s hs
    obtain ⟨n, hargs, rfl⟩ := renderCall_open_eq_ok hk hs
    obtain ⟨comp, hcomp, hc⟩ := List.mem_flatMap.1 hc
    obtain ⟨a, ha, hc⟩ := List.mem_flatMap.1 hc
    have hn : n ∈ a.value.viewRefs := Value.mem_viewRefs.2 ⟨c, hc, by simp [hargs]⟩
    exact ⟨n, hexist n (List.mem_flatMap.2 ⟨comp, hcomp, List.mem_flatMap.2 ⟨a, ha, hn⟩⟩), rfl⟩
  · -- hoisting fails only on a missing property, and a rendering failure on an
    -- unknown function is a call of the section, not of a component
    intro n h
    rcases generate_error_cases h with he | hh | ⟨c, hc, hk, hname⟩
    · cases he
    · obtain ⟨m, -, he⟩ := hoist_eq_error_iff.1 hh
      cases he
    · rcases List.mem_append.1 hc with hc | hc
      · exact absurd hk (hknown c hc)
      · exact ⟨c, hc, hk, hname⟩

/-- A button, and a variable of it whose argument calls `close`, a function
that does not exist. -/
def closeInVariable : Program where
  definition :=
    { components :=
        [{ kind := .button, name := "B", line := 1, params := [],
           assignments := [⟨"text", .scalar (.str "x"), 2⟩] }]
      vars := [⟨"b", 4, ⟨"B", 4, [("onclick", .calls [⟨.invalid, "close", [.scalar (.num 1)]⟩])]⟩⟩] }
  views := [⟨"Main", [.ref "b" 1]⟩]
  defaultView := ""

theorem closeInVariable_unknown_function :
    Check.analyze closeInVariable "App.def" = none ∧
      generate closeInVariable = .error (.unknownFunction "close") ∧
      ∃ c ∈ closeInVariable.definition.variableCalls, c.kind = .invalid ∧ c.name = "close" := by
  have hchk : Check.analyze closeInVariable "App.def" = none := by decide
  have hgen : generate closeInVariable = .error (.unknownFunction "close") := rfl
  exact ⟨hchk, hgen, (accepted_calls_checked hchk).unknown_in_variable "close" hgen⟩

/-- A button, and a variable of it whose argument opens a view the program does
not have. -/
def openInVariable : Program where
  definition :=
    { components :=
        [{ kind := .button, name := "B", line := 1, params := [],
           assignments := [⟨"text", .scalar (.str "x"), 2⟩] }]
      vars := [⟨"b", 4, ⟨"B", 4, [("onclick", .calls [⟨.openView, "open", [.view "Nope"]⟩])]⟩⟩] }
  views := [⟨"Main", [.ref "b" 1]⟩]
  defaultView := ""

/-- **Variables' views are not checked.** `openInVariable` passes the checks and
its App is generated, yet a call of its definition section names the view
`Nope`, which the program does not have, and renders as a switch to it. -/
theorem accepted_variable_opens_missing_view :
    Check.analyze openInVariable "App.def" = none ∧ (∃ out, generate openInVariable = .ok out) ∧
      ∃ c ∈ openInVariable.definition.calls, Arg.view "Nope" ∈ c.args ∧
        "Nope" ∉ openInVariable.views.map View.name ∧
        ∀ cells, renderCall cells .definition c = .ok (setterName viewCell ++ "(\"Nope\");") :=
  ⟨by decide, ⟨_, rfl⟩, ⟨.openView, "open", [.view "Nope"]⟩, by decide, by decide, by decide,
    fun _ => rfl⟩

end Jsx

end UiLang
