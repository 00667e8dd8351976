import UiLang.Proofs.Generate

/-!
# What rendering can fail with

Rendering fails on calls, members and arithmetic that have no rendering, never
on a missing start view or a missing property: those are found before anything
is rendered. And the only way to fail with an unknown function is to render a
call of that name whose kind is invalid. `RenderFailure calls e` says both, for
a value whose calls are `calls`; each rendering function is shown to fail only
that way (`renderValue_error`, `renderComponent_error`, `renderDefinition_error`),
and inside a view a call is never an unknown function but a misplaced one
(`renderView_error`).

Put together with hoisting, a failed generation failed at the start view, in
hoisting, or while rendering the calls of the definition section
(`generate_error_cases`).
-/

namespace UiLang

/-- The calls in the components' assignments. -/
def Definition.componentCalls (d : Definition) : List Call :=
  d.components.flatMap (·.assignments.flatMap (·.value.allCalls))

/-- The calls in the variables' arguments. -/
def Definition.variableCalls (d : Definition) : List Call :=
  d.vars.flatMap (·.inst.args.flatMap (·.2.allCalls))

/-- Every call of a definition section: the components', then the variables'. -/
def Definition.calls (d : Definition) : List Call :=
  d.componentCalls ++ d.variableCalls

theorem Definition.mem_componentCalls {d : Definition} {comp : Component} {a : Assignment}
    {c : Call} (hcomp : comp ∈ d.components) (ha : a ∈ comp.assignments) (hc : c ∈ a.value.allCalls) :
    c ∈ d.componentCalls :=
  List.mem_flatMap.2 ⟨comp, hcomp, List.mem_flatMap.2 ⟨a, ha, hc⟩⟩

theorem Definition.mem_variableCalls {d : Definition} {v : Variable} {arg : String × Value}
    {c : Call} (hv : v ∈ d.vars) (harg : arg ∈ v.inst.args) (hc : c ∈ arg.2.allCalls) :
    c ∈ d.variableCalls :=
  List.mem_flatMap.2 ⟨v, hv, List.mem_flatMap.2 ⟨arg, harg, hc⟩⟩

namespace Jsx

/-- The failures rendering can produce from values whose calls are `calls`:
neither a missing start view nor a missing property, and an unknown function
only as one of those calls. -/
def RenderFailure (calls : List Call) : GenError → Prop
  | .missingDefaultView _ | .missingProperty _ => False
  | .unknownFunction n => ∃ c ∈ calls, c.kind = .invalid ∧ c.name = n
  | _ => True

theorem RenderFailure.mono {calls calls' : List Call} {e : GenError} (h : RenderFailure calls e)
    (hsub : ∀ c ∈ calls, c ∈ calls') : RenderFailure calls' e := by
  cases e <;> simp only [RenderFailure] at h ⊢
  obtain ⟨c, hc, hk⟩ := h
  exact ⟨c, hsub c hc, hk⟩

theorem renderMember_error {cells : List Cell} {m : Member} {e : GenError}
    (h : renderMember cells m = .error e) : RenderFailure [] e := by
  by_cases hs : (findCell cells (cellName m.obj m.prop)).isSome <;> simp [renderMember, hs] at h
  cases h
  trivial

theorem renderOperand_error {cells : List Cell} {t : Operand} {e : GenError}
    (h : renderOperand cells t = .error e) : RenderFailure [] e := by
  cases t with
  | member m => exact renderMember_error h
  | _ => cases h

theorem renderScalar_error {cells : List Cell} {s : Scalar} {e : GenError}
    (h : renderScalar cells s = .error e) : RenderFailure [] e := by
  cases s with
  | arith first steps =>
    simp only [renderScalar] at h
    split at h
    · cases h
      trivial
    · -- the first operand fails, or the operand of a step does
      rcases Except.bind_eq_error.1 h with h | ⟨_, -, h⟩
      · exact renderOperand_error h
      · obtain ⟨⟨op, t⟩, -, h⟩ := Except.mapM_eq_error (Except.bind_pure_eq_error.1 h)
        exact renderOperand_error (Except.bind_pure_eq_error.1 h)
  | _ => cases h

theorem renderArg_error {cells : List Cell} {a : Arg} {e : GenError}
    (h : renderArg cells a = .error e) : RenderFailure [] e := by
  cases a with
  | member m => exact renderMember_error h
  | view _ => cases h
  | scalar s => exact renderScalar_error h

/-- The calls of a value that are rendered as calls at `place`: all of them in
the definition section, none in a view. -/
def Place.calls : Place → List Call → List Call
  | .definition, cs => cs
  | .view, _ => []

theorem Place.calls_mono (place : Place) {cs cs' : List Call} (h : ∀ c ∈ cs, c ∈ cs') :
    ∀ c ∈ place.calls cs, c ∈ place.calls cs' := by
  cases place
  · exact h
  · exact fun _ hc => hc

/-- **A call fails as itself:** an unknown function is the call's own name, and
only in the definition section. -/
theorem renderCall_error {cells : List Cell} {place : Place} {c : Call} {e : GenError}
    (h : renderCall cells place c = .error e) : RenderFailure (place.calls [c]) e := by
  unfold renderCall at h
  -- every branch but a `set` with a target fails with a fixed error; that one
  -- fails as its value does
  repeat' split at h
  all_goals first
    | (cases h <;> first | trivial | exact ⟨c, List.mem_cons_self, ‹_›, rfl⟩)
    | skip
  all_goals exact (renderArg_error (Except.bind_pure_eq_error.1 h)).mono (by simp)

/-- **A value fails at one of its calls,** or with a failure that is no unknown
function. -/
theorem renderValue_error {cells : List Cell} {place : Place} {v : Value} {e : GenError}
    (h : renderValue cells place v = .error e) : RenderFailure (place.calls v.allCalls) e := by
  -- a call among `items` fails as that call
  have hcalls : ∀ {items : List Call} {e : GenError},
      items.mapM (renderCall cells place) = .error e → RenderFailure (place.calls items) e := by
    intro items e h
    obtain ⟨c, hc, h⟩ := Except.mapM_eq_error h
    exact (renderCall_error h).mono (place.calls_mono (by simpa using hc))
  cases v with
  | scalar s => exact (renderScalar_error h).mono (by simp)
  | list items =>
    simp only [renderValue] at h
    obtain ⟨s, -, h⟩ := Except.mapM_eq_error (Except.bind_pure_eq_error.1 h)
    exact (renderScalar_error h).mono (by simp)
  | calls items =>
    cases items with
    | nil => cases h
    | cons c cs =>
      cases place <;> simp only [renderValue] at h <;> exact hcalls (Except.bind_pure_eq_error.1 h)
  | call c => exact renderCall_error h

theorem renderStyleValue_error {cells : List Cell} {prop : String} {v : Value} {e : GenError}
    (h : renderStyleValue cells prop v = .error e) : renderValue cells .definition v = .error e := by
  unfold renderStyleValue at h
  split at h <;> first
    | cases h
    | exact h
    | exact Except.bind_pure_eq_error.1 h

/-- **An assignment fails as its value does.** -/
theorem renderAssignment_error {cells : List Cell} {a : Assignment} {e : GenError}
    (h : renderAssignment cells a = .error e) : renderValue cells .definition a.value = .error e := by
  simp only [renderAssignment] at h
  -- an invalid property renders as nothing; the others fail only in their value
  split at h
  case h_4 => cases h
  all_goals first
    | exact renderStyleValue_error (Except.bind_pure_eq_error.1 h)
    | exact Except.bind_pure_eq_error.1 h

/-- **A component fails at one of its assignments.** -/
theorem renderComponent_error {cells : List Cell} {c : Component} {e : GenError}
    (h : renderComponent cells c = .error e) :
    ∃ a ∈ c.assignments, renderValue cells .definition a.value = .error e := by
  -- each of the three property classes is rendered by `renderClass`
  have hclass : ∀ k, renderClass cells c k = .error e →
      ∃ a ∈ c.assignments, renderValue cells .definition a.value = .error e := by
    intro k h
    obtain ⟨a, ha, h⟩ := Except.mapM_eq_error (Except.bind_pure_eq_error.1 h)
    exact ⟨a, List.mem_of_mem_filter ha, renderAssignment_error h⟩
  simp only [renderComponent] at h
  rcases Except.bind_eq_error.1 h with h | ⟨_, -, h⟩
  · exact hclass _ h
  rcases Except.bind_eq_error.1 h with h | ⟨_, -, h⟩
  · exact hclass _ h
  exact hclass _ (Except.bind_pure_eq_error.1 h)

/-- **An instance fails at one of its arguments.** -/
theorem renderInstance_error {cells : List Cell} {place : Place} {i : Instance} {e : GenError}
    (h : renderInstance cells place i = .error e) :
    ∃ arg ∈ i.args, renderValue cells place arg.2 = .error e := by
  simp only [renderInstance] at h
  obtain ⟨⟨n, v⟩, harg, h⟩ := Except.mapM_eq_error (Except.bind_pure_eq_error.1 h)
  exact ⟨(n, v), harg, Except.bind_pure_eq_error.1 h⟩

/-- **The definition section fails at a call of a cell's value or of the
section,** or with a failure that is no unknown function. -/
theorem renderDefinition_error {cells : List Cell} {d : Definition} {e : GenError}
    (h : renderDefinition cells d = .error e) :
    RenderFailure (cells.flatMap (·.initial.allCalls) ++ d.calls) e := by
  simp only [renderDefinition] at h
  rcases Except.bind_eq_error.1 h with h | ⟨_, -, h⟩
  · obtain ⟨c, hc, h⟩ := Except.mapM_eq_error h
    have h := Except.bind_pure_eq_error.1 h
    exact (renderValue_error h).mono fun x hx => List.mem_append_left _ (List.mem_flatMap.2 ⟨c, hc, hx⟩)
  rcases Except.bind_eq_error.1 h with h | ⟨_, -, h⟩
  · obtain ⟨comp, hcomp, h⟩ := Except.mapM_eq_error h
    obtain ⟨a, ha, h⟩ := renderComponent_error h
    exact (renderValue_error h).mono fun x hx =>
      List.mem_append_right _ (List.mem_append_left _ (Definition.mem_componentCalls hcomp ha hx))
  obtain ⟨v, hv, h⟩ := Except.mapM_eq_error (Except.bind_pure_eq_error.1 h)
  obtain ⟨arg, harg, h⟩ := renderInstance_error (Except.bind_pure_eq_error.1 h)
  exact (renderValue_error h).mono fun x hx =>
    List.mem_append_right _ (List.mem_append_right _ (Definition.mem_variableCalls hv harg hx))

/-- **A view never fails with an unknown function:** its calls are misplaced. -/
theorem renderView_error {cells : List Cell} {v : View} {e : GenError}
    (h : renderView cells v = .error e) : RenderFailure [] e := by
  simp only [renderView] at h
  obtain ⟨u, -, h⟩ := Except.mapM_eq_error (Except.bind_pure_eq_error.1 h)
  cases u with
  | ref n l => cases h
  | inst i =>
    obtain ⟨arg, -, h⟩ := renderInstance_error (Except.bind_pure_eq_error.1 h)
    exact renderValue_error h

/-- **Hoisting brings in no call:** the cells' values and the rebound section
call only what the section called. -/
theorem hoist_calls_subset {d : Definition} {view : String} {cells : List Cell} {d' : Definition}
    (h : hoist d view = .ok (cells, d')) :
    ∀ c ∈ cells.flatMap (·.initial.allCalls) ++ d'.calls, c ∈ d.calls :=
  hoist_collect_subset Value.allCalls (fun _ => rfl) (fun _ => rfl) h

/-- **What generation fails with.** A failed generation names the missing
start view, or fails in hoisting, or fails in rendering without an unknown
function that the definition section does not call. -/
theorem generate_error_cases {p : Program} {e : GenError} (h : generate p = .error e) :
    e = .missingDefaultView (Program.startView p ++ ".view") ∨
      hoist p.definition (Program.startView p) = .error e ∨ RenderFailure p.definition.calls e := by
  rcases generate_eq_error.1 h with ⟨-, he⟩ | ⟨-, hh | ⟨cells, d', hh, hd | ⟨defs, -, hv⟩⟩⟩
  · exact .inl he
  · exact .inr (.inl hh)
  · exact .inr (.inr ((renderDefinition_error hd).mono (hoist_calls_subset hh)))
  · obtain ⟨v, -, hv⟩ := Except.mapM_eq_error hv
    exact .inr (.inr ((renderView_error hv).mono (by simp)))

end Jsx

end UiLang
