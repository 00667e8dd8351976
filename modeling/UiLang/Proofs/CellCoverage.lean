import UiLang.Proofs.Failures

/-!
# Every member of the definition section finds its cell

A member `X.y` renders as a read of its state cell, and `set(X.y, e)` as a call
of the cell's setter. A member whose cell name is not among the cells is an
error: `notHoisted` where it is read, `setNotHoisted` where it is the target of
`set`. Such an error always points at a member of the rendered value whose cell
is missing (`MissingCell`, `renderValue_missingCell`).

Hoisting gives a cell to every member of the definition section
(`hoist_covers`), and hands rendering no member from elsewhere: the cells start
with values the section assigns, and rebinding brings in only cell references
(`hoist_members_subset`). So rendering the definition section never misses a
cell, and a generation that does miss one failed in a view, on a member read
there (`unhoisted_members_only_in_views`). A `set` in a view is a misplaced call,
so a missed `set` target never reaches the caller.
-/

namespace UiLang

/-- The members in the arguments of a view entry. -/
def Usage.members : Usage → List Member
  | .ref _ _ => []
  | .inst i => i.args.flatMap (·.2.members)

/-- The members of a view, in reading order. -/
def View.members (v : View) : List Member :=
  v.usages.flatMap Usage.members

theorem Definition.mem_members_of_assignment {d : Definition} {comp : Component} {a : Assignment}
    {m : Member} (hcomp : comp ∈ d.components) (ha : a ∈ comp.assignments)
    (hm : m ∈ a.value.members) : m ∈ d.members :=
  List.mem_append_left _ (List.mem_flatMap.2 ⟨comp, hcomp, List.mem_flatMap.2 ⟨a, ha, hm⟩⟩)

theorem Definition.mem_members_of_argument {d : Definition} {v : Variable} {arg : String × Value}
    {m : Member} (hv : v ∈ d.vars) (harg : arg ∈ v.inst.args) (hm : m ∈ arg.2.members) :
    m ∈ d.members :=
  List.mem_append_right _ (List.mem_flatMap.2 ⟨v, hv, List.mem_flatMap.2 ⟨arg, harg, hm⟩⟩)

namespace Jsx

/-- The reference of an error about a member with no cell, read directly or as
the target of `set`. -/
def GenError.unhoisted : GenError → Option String
  | .notHoisted r | .setNotHoisted r => some r
  | _ => none

/-- An error about a member with no cell names a member of `ms` whose cell is
not among `cells`. -/
def MissingCell (cells : List Cell) (ms : List Member) (e : GenError) : Prop :=
  ∀ r, e.unhoisted = some r → ∃ m ∈ ms, memberRef m.obj m.prop = r ∧ m.cell ∉ cells.map Cell.name

section MissingCell

variable {cells : List Cell} {ms ms' : List Member} {e : GenError}

theorem MissingCell.mono (h : MissingCell cells ms e) (hsub : ∀ m ∈ ms, m ∈ ms') :
    MissingCell cells ms' e := by
  intro r hr
  obtain ⟨m, hm, href, hcell⟩ := h r hr
  exact ⟨m, hsub m hm, href, hcell⟩

theorem MissingCell.of_none (h : e.unhoisted = none) : MissingCell cells ms e := by
  intro r hr
  rw [h] at hr
  cases hr

/-- A failure of one element of a `mapM` blames the members of all elements. -/
theorem MissingCell.mapM {α β : Type} {f : α → Except GenError β} {l : List α}
    (members : α → List Member) (hf : ∀ a ∈ l, f a = .error e → MissingCell cells (members a) e)
    (h : l.mapM f = .error e) : MissingCell cells (l.flatMap members) e := by
  obtain ⟨a, ha, hfa⟩ := Except.mapM_eq_error h
  exact (hf a ha hfa).mono fun m hm => List.mem_flatMap.2 ⟨a, ha, hm⟩

end MissingCell

theorem renderMember_missingCell {cells : List Cell} {m : Member} {e : GenError}
    (h : renderMember cells m = .error e) : MissingCell cells [m] e := by
  by_cases hs : (findCell cells (cellName m.obj m.prop)).isSome <;> simp [renderMember, hs] at h
  cases h
  rintro r ⟨⟩
  exact ⟨m, List.mem_singleton_self m, rfl, mt findCell_isSome.2 hs⟩

theorem renderOperand_missingCell {cells : List Cell} {t : Operand} {e : GenError}
    (h : renderOperand cells t = .error e) : MissingCell cells t.members e := by
  cases t with
  | member m => exact renderMember_missingCell h
  | _ => cases h

theorem renderScalar_missingCell {cells : List Cell} {s : Scalar} {e : GenError}
    (h : renderScalar cells s = .error e) : MissingCell cells s.members e := by
  cases s with
  | arith first steps =>
    simp only [renderScalar] at h
    split at h
    · cases h
      exact .of_none rfl
    · -- the first operand fails, or the operand of some step does
      rcases Except.bind_eq_error.1 h with h | ⟨_, -, h⟩
      · exact (renderOperand_missingCell h).mono fun m hm => List.mem_append_left _ hm
      · have hsteps := MissingCell.mapM (fun st => st.2.members)
          (fun st _ hst => renderOperand_missingCell (Except.bind_pure_eq_error.1 hst))
          (Except.bind_pure_eq_error.1 h)
        exact hsteps.mono fun m hm => List.mem_append_right _ hm
  | _ => cases h

theorem renderArg_missingCell {cells : List Cell} {a : Arg} {e : GenError}
    (h : renderArg cells a = .error e) : MissingCell cells a.members e := by
  cases a with
  | member m => exact renderMember_missingCell h
  | view _ => cases h
  | scalar s => exact renderScalar_missingCell h

/-- **A call misses a cell only at a `set` target or in the value it sets.** -/
theorem renderCall_missingCell {cells : List Cell} {place : Place} {c : Call} {e : GenError}
    (h : renderCall cells place c = .error e) : MissingCell cells c.members e := by
  obtain ⟨kind, name, args⟩ := c
  cases place with
  | view =>
    cases h
    exact .of_none rfl
  | definition =>
    cases kind with
    | setProperty =>
      -- only `set(X.y, v)` with a member target looks a cell up
      match args, h with
      | [.member m, v], h =>
        simp only [renderCall] at h
        cases hf : findCell cells (cellName m.obj m.prop) with
        | none =>
          rw [hf] at h
          cases h
          rintro r ⟨⟩
          exact ⟨m, by simp [Call.members, Arg.members], rfl,
            mt findCell_isSome.2 (by simp [Member.cell, hf])⟩
        | some cell =>
          rw [hf] at h
          exact (renderArg_missingCell (Except.bind_pure_eq_error.1 h)).mono fun m hm => by
            simp [Call.members, hm]
      | [.view _, _], h | [.scalar _, _], h | [], h | [_], h | _ :: _ :: _ :: _, h =>
        simp only [renderCall] at h
        cases h
        exact .of_none rfl
    | openView =>
      simp only [renderCall] at h
      split at h <;> cases h <;> exact .of_none rfl
    | invalid =>
      cases h
      exact .of_none rfl

theorem renderValue_missingCell {cells : List Cell} {place : Place} {v : Value} {e : GenError}
    (h : renderValue cells place v = .error e) : MissingCell cells v.members e := by
  cases v with
  | scalar s => exact renderScalar_missingCell h
  | list items =>
    simp only [renderValue] at h
    exact MissingCell.mapM _ (fun s _ hs => renderScalar_missingCell hs)
      (Except.bind_pure_eq_error.1 h)
  | calls items =>
    cases items with
    | nil => cases h
    | cons c cs =>
      cases place <;> simp only [renderValue] at h <;>
        exact MissingCell.mapM _ (fun c _ hc => renderCall_missingCell hc)
          (Except.bind_pure_eq_error.1 h)
  | call c => exact renderCall_missingCell h

/-- **The definition section misses a cell only at a member of a cell's initial
value or of the section.** -/
theorem renderDefinition_missingCell {cells : List Cell} {d : Definition} {e : GenError}
    (h : renderDefinition cells d = .error e) :
    MissingCell cells (cells.flatMap (·.initial.members) ++ d.members) e := by
  simp only [renderDefinition] at h
  rcases Except.bind_eq_error.1 h with h | ⟨_, -, h⟩
  · have hcells := MissingCell.mapM (·.initial.members)
      (fun c _ hc => renderValue_missingCell (Except.bind_pure_eq_error.1 hc)) h
    exact hcells.mono fun m hm => List.mem_append_left _ hm
  rcases Except.bind_eq_error.1 h with h | ⟨_, -, h⟩
  · obtain ⟨comp, hcomp, h⟩ := Except.mapM_eq_error h
    obtain ⟨a, ha, h⟩ := renderComponent_error h
    exact (renderValue_missingCell h).mono fun m hm =>
      List.mem_append_right _ (Definition.mem_members_of_assignment hcomp ha hm)
  obtain ⟨v, hv, h⟩ := Except.mapM_eq_error (Except.bind_pure_eq_error.1 h)
  obtain ⟨arg, harg, h⟩ := renderInstance_error (Except.bind_pure_eq_error.1 h)
  exact (renderValue_missingCell h).mono fun m hm =>
    List.mem_append_right _ (Definition.mem_members_of_argument hv harg hm)

theorem renderOperand_error_cases {cells : List Cell} {t : Operand} {e : GenError}
    (h : renderOperand cells t = .error e) : ∃ r, e = .notHoisted r := by
  cases t with
  | member m =>
    by_cases hs : (findCell cells (cellName m.obj m.prop)).isSome <;>
      simp [renderOperand, renderMember, hs] at h
    exact ⟨_, h.symm⟩
  | _ => cases h

theorem renderScalar_error_cases {cells : List Cell} {s : Scalar} {e : GenError}
    (h : renderScalar cells s = .error e) : e = .divisionByZero ∨ ∃ r, e = .notHoisted r := by
  cases s with
  | arith first steps =>
    simp only [renderScalar] at h
    split at h
    · cases h
      exact .inl rfl
    · rcases Except.bind_eq_error.1 h with h | ⟨_, -, h⟩
      · exact .inr (renderOperand_error_cases h)
      · obtain ⟨st, -, h⟩ := Except.mapM_eq_error (Except.bind_pure_eq_error.1 h)
        exact .inr (renderOperand_error_cases (Except.bind_pure_eq_error.1 h))
  | _ => cases h

/-- **A value in a view fails on a division by zero, a member with no cell, or a
call,** which has no rendering there. -/
theorem renderValue_view_error_cases {cells : List Cell} {v : Value} {e : GenError}
    (h : renderValue cells .view v = .error e) :
    e = .divisionByZero ∨ (∃ r, e = .notHoisted r) ∨ ∃ n, e = .misplacedCall n := by
  cases v with
  | scalar s => exact (renderScalar_error_cases h).imp_right .inl
  | list items =>
    simp only [renderValue] at h
    obtain ⟨s, -, h⟩ := Except.mapM_eq_error (Except.bind_pure_eq_error.1 h)
    exact (renderScalar_error_cases h).imp_right .inl
  | calls items =>
    cases items with
    | nil => cases h
    | cons c cs =>
      simp only [renderValue] at h
      obtain ⟨c, -, h⟩ := Except.mapM_eq_error (Except.bind_pure_eq_error.1 h)
      cases h
      exact .inr (.inr ⟨_, rfl⟩)
  | call c =>
    cases h
    exact .inr (.inr ⟨_, rfl⟩)

/-- **A view misses a cell only at one of its members, which it reads:** a
`set` in a view is a misplaced call. -/
theorem renderView_missingCell {cells : List Cell} {v : View} {e : GenError}
    (h : renderView cells v = .error e) :
    MissingCell cells v.members e ∧ ∀ r, e ≠ .setNotHoisted r := by
  simp only [renderView] at h
  obtain ⟨u, hu, h⟩ := Except.mapM_eq_error (Except.bind_pure_eq_error.1 h)
  cases u with
  | ref n l => cases h
  | inst i =>
    obtain ⟨arg, harg, h⟩ := renderInstance_error (Except.bind_pure_eq_error.1 h)
    refine ⟨(renderValue_missingCell h).mono fun m hm =>
      List.mem_flatMap.2 ⟨.inst i, hu, List.mem_flatMap.2 ⟨arg, harg, hm⟩⟩, ?_⟩
    rintro r rfl
    rcases renderValue_view_error_cases h with h | ⟨_, h⟩ | ⟨_, h⟩ <;> cases h

/-! ## What hoisting hands on -/

/-- **Hoisting brings in no member:** the cells' values and the rebound section
hold only members of the section. -/
theorem hoist_members_subset {d : Definition} {view : String} {cells : List Cell} {d' : Definition}
    (h : hoist d view = .ok (cells, d')) :
    ∀ m ∈ cells.flatMap (·.initial.members) ++ d'.members, m ∈ d.members :=
  hoist_collect_subset Value.members (fun _ => rfl) (fun _ => rfl) h

/-- **Every member that rendering meets in the definition section has a cell.** -/
theorem hoist_covers_rendered {d : Definition} {view : String} {cells : List Cell} {d' : Definition}
    (h : hoist d view = .ok (cells, d')) :
    ∀ m ∈ cells.flatMap (·.initial.members) ++ d'.members, m.cell ∈ cells.map Cell.name :=
  fun m hm => hoist_covers h m (hoist_members_subset h m hm)

/-- **A member with no cell is a member of a view.** The definition section,
with the cells hoisting made for it, never misses a cell; so when generation
fails on a member with no cell, hoisting succeeded and the member is one that a
view reads. -/
theorem unhoisted_members_only_in_views :
    (∀ (d : Definition) (view : String) (cells : List Cell) (d' : Definition),
      hoist d view = .ok (cells, d') →
        (∀ m ∈ cells.flatMap (·.initial.members) ++ d'.members, m.cell ∈ cells.map Cell.name) ∧
          ∀ e, renderDefinition cells d' = .error e → e.unhoisted = none) ∧
    ∀ (p : Program) (e : GenError) (r : String), generate p = .error e → e.unhoisted = some r →
      e = .notHoisted r ∧ ∃ cells d', hoist p.definition (Program.startView p) = .ok (cells, d') ∧
        ∃ v ∈ p.views, ∃ m ∈ v.members, memberRef m.obj m.prop = r ∧ m.cell ∉ cells.map Cell.name := by
  -- the definition section never misses a cell
  have hdef : ∀ (d : Definition) (view : String) (cells : List Cell) (d' : Definition),
      hoist d view = .ok (cells, d') → ∀ e, renderDefinition cells d' = .error e →
        e.unhoisted = none := by
    intro d view cells d' hh e he
    cases hr : e.unhoisted with
    | none => rfl
    | some r =>
      obtain ⟨m, hm, -, hcell⟩ := renderDefinition_missingCell he r hr
      exact absurd (hoist_covers_rendered hh m hm) hcell
  refine ⟨fun d view cells d' hh => ⟨hoist_covers_rendered hh, hdef d view cells d' hh⟩, ?_⟩
  intro p e r hg hr
  rcases generate_eq_error.1 hg with ⟨-, rfl⟩ | ⟨-, hh | ⟨cells, d', hh, hd | ⟨defs, -, hv⟩⟩⟩
  · cases hr
  · -- hoisting fails only on a missing property
    obtain ⟨m, -, rfl⟩ := hoist_eq_error_iff.1 hh
    cases hr
  · rw [hdef _ _ _ _ hh e hd] at hr
    cases hr
  · obtain ⟨v, hv, hve⟩ := Except.mapM_eq_error hv
    obtain ⟨hmiss, hset⟩ := renderView_missingCell hve
    obtain ⟨m, hm, href, hcell⟩ := hmiss r hr
    refine ⟨?_, cells, d', hh, v, hv, m, hm, href, hcell⟩
    cases e <;> simp_all [GenError.unhoisted]

/-- A view that reads `Pic.width`, which the definition section never mentions. -/
def strayWidth : Program where
  definition :=
    { components :=
        [{ kind := .picture, name := "Pic", line := 1, params := [],
           assignments := [⟨"width", .scalar (.num 5), 2⟩] }]
      vars := [] }
  views := [⟨"Main", [.inst ⟨"Pic", 1,
    [("width", .scalar (.arith (.member ⟨"Pic", 1, "width"⟩) [(.add, .num 1)]))]⟩]⟩]
  defaultView := ""

/-- Generating `strayWidth` misses the cell of `Pic.width`, and the miss is the
view's. -/
theorem strayWidth_missed_in_view :
    generate strayWidth = .error (.notHoisted "Pic.width") ∧
      ∃ cells d', hoist strayWidth.definition (Program.startView strayWidth) = .ok (cells, d') ∧
        ∃ v ∈ strayWidth.views, ∃ m ∈ v.members,
          memberRef m.obj m.prop = "Pic.width" ∧ m.cell ∉ cells.map Cell.name := by
  have hg : generate strayWidth = .error (.notHoisted "Pic.width") := by decide
  exact ⟨hg, (unhoisted_members_only_in_views.2 strayWidth _ "Pic.width" hg rfl).2⟩

end Jsx

end UiLang
