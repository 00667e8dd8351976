import UiLang.Proofs.CellCoverage
import UiLang.Proofs.Declarations

/-!
# No division by the literal zero in a generated App

Arithmetic whose divisor is the literal `0` has no rendering: `renderScalar`
fails on it whatever its operands. A successful rendering has therefore looked
at each scalar it was given and found none that divides by zero
(`renderValue_ok_scalars` and its companions, one per rendering function).

What remains is to show that generation renders every scalar of a program.
Views and variables are rendered whole. A component renders each assignment of
a known property, and the property type check lets through no other. Hoisting
moves values out of the components, but only into the cells, which are
rendered as well: an assignment of the section is kept, or its value is a
cell's initial value (`hoist_keeps_assignments`). So a checked program with a
division by the literal `0` anywhere is never generated
(`accepted_zero_division_fails`).
-/

namespace UiLang

/-- Whether a scalar is arithmetic with a step that divides by the literal `0`. -/
def Scalar.dividesByZero : Scalar → Bool
  | .arith _ steps => Jsx.dividesByZero steps
  | _ => false

/-- The scalar a call argument is, if it is one. -/
def Arg.scalars : Arg → List Scalar
  | .scalar s => [s]
  | _ => []

/-- The scalar arguments of a call. -/
def Call.scalars (c : Call) : List Scalar :=
  c.args.flatMap Arg.scalars

/-- The scalars of a value: the value itself, its items, or the arguments of its
calls. -/
def Value.scalars : Value → List Scalar
  | .scalar s => [s]
  | .list items => items
  | .calls cs => cs.flatMap Call.scalars
  | .call c => c.scalars

/-- The scalars of an instance's arguments. -/
def Instance.scalars (i : Instance) : List Scalar :=
  i.args.flatMap (·.2.scalars)

/-- The scalars of a view entry. -/
def Usage.scalars : Usage → List Scalar
  | .ref _ _ => []
  | .inst i => i.scalars

/-- Every scalar of a program: in the components' assignments, the variables'
arguments and the views' instances. -/
def Program.scalars (p : Program) : List Scalar :=
  p.definition.components.flatMap (·.assignments.flatMap (·.value.scalars)) ++
    p.definition.vars.flatMap (·.inst.scalars) ++ p.views.flatMap (·.usages.flatMap Usage.scalars)

namespace Jsx

/-! ## A successful rendering divides by no zero -/

theorem renderScalar_ok_dividesByZero {cells : List Cell} {s : Scalar} {r : String}
    (h : renderScalar cells s = .ok r) : s.dividesByZero = false := by
  cases s with
  | arith first steps =>
    simp only [renderScalar] at h
    split at h
    · cases h
    · rename_i hz
      simpa [Scalar.dividesByZero] using hz
  | _ => rfl

theorem renderArg_ok_scalars {cells : List Cell} {a : Arg} {r : String}
    (h : renderArg cells a = .ok r) : ∀ s ∈ a.scalars, s.dividesByZero = false := by
  cases a with
  | scalar s =>
    intro s' hs'
    rw [List.mem_singleton.1 hs']
    exact renderScalar_ok_dividesByZero h
  | _ => simp [Arg.scalars]

/-- **A rendered call divides by no zero:** only `set` renders an argument, the
value it sets. -/
theorem renderCall_ok_scalars {cells : List Cell} {place : Place} {c : Call} {r : String}
    (h : renderCall cells place c = .ok r) : ∀ s ∈ c.scalars, s.dividesByZero = false := by
  obtain ⟨kind, name, args⟩ := c
  cases place with
  | view => cases h
  | definition =>
    cases kind with
    | setProperty =>
      match args, h with
      | [.member m, v], h =>
        simp only [renderCall] at h
        cases hf : findCell cells (cellName m.obj m.prop) with
        | none =>
          rw [hf] at h
          cases h
        | some cell =>
          rw [hf] at h
          obtain ⟨rv, hv, -⟩ := Except.bind_eq_ok.1 h
          simpa [Call.scalars, Arg.scalars] using renderArg_ok_scalars hv
      | [.view _, _], h | [.scalar _, _], h | [], h | [_], h | _ :: _ :: _ :: _, h =>
        simp only [renderCall] at h
        cases h
    | openView =>
      simp only [renderCall] at h
      split at h
      · simp [Call.scalars, Arg.scalars]
      · cases h
      · cases h
    | invalid => cases h

theorem renderValue_ok_scalars {cells : List Cell} {place : Place} {v : Value} {r : String}
    (h : renderValue cells place v = .ok r) : ∀ s ∈ v.scalars, s.dividesByZero = false := by
  -- each element of a successful `mapM` was rendered
  have hcalls : ∀ {items : List Call} {rs : List String},
      items.mapM (renderCall cells place) = .ok rs → ∀ s ∈ (Value.calls items).scalars,
        s.dividesByZero = false := by
    intro items rs h s hs
    obtain ⟨c, hc, hs⟩ := List.mem_flatMap.1 hs
    obtain ⟨rc, hrc⟩ := Except.mapM_eq_ok_mem h c hc
    exact renderCall_ok_scalars hrc s hs
  cases v with
  | scalar s =>
    intro s' hs'
    rw [List.mem_singleton.1 hs']
    exact renderScalar_ok_dividesByZero h
  | list items =>
    simp only [renderValue] at h
    obtain ⟨rs, hrs, -⟩ := Except.bind_eq_ok.1 h
    intro s hs
    obtain ⟨rs', hrs'⟩ := Except.mapM_eq_ok_mem hrs s hs
    exact renderScalar_ok_dividesByZero hrs'
  | calls items =>
    cases items with
    | nil => simp [Value.scalars]
    | cons c cs =>
      cases place <;> simp only [renderValue] at h <;>
        obtain ⟨rs, hrs, -⟩ := Except.bind_eq_ok.1 h <;> exact hcalls hrs
  | call c => exact renderCall_ok_scalars h

theorem renderStyleValue_ok_scalars {cells : List Cell} {prop : String} {v : Value} {r : String}
    (h : renderStyleValue cells prop v = .ok r) : ∀ s ∈ v.scalars, s.dividesByZero = false := by
  unfold renderStyleValue at h
  -- a boolean visibility and a string direction are no arithmetic
  split at h
  case h_1 | h_3 => simp [Value.scalars, Scalar.dividesByZero]
  case h_2 | h_4 =>
    obtain ⟨rv, hrv, -⟩ := Except.bind_eq_ok.1 h
    exact renderValue_ok_scalars hrv
  case h_5 => exact renderValue_ok_scalars h

/-- **An assignment of a known property is rendered with its whole value.** -/
theorem renderAssignment_ok_scalars {cells : List Cell} {a : Assignment} {r : String}
    (hk : propertyClass a.prop ≠ .invalid) (h : renderAssignment cells a = .ok r) :
    ∀ s ∈ a.value.scalars, s.dividesByZero = false := by
  simp only [renderAssignment] at h
  split at h
  case h_4 => contradiction
  case h_1 =>
    obtain ⟨rv, hrv, -⟩ := Except.bind_eq_ok.1 h
    exact renderStyleValue_ok_scalars hrv
  case h_2 | h_3 =>
    obtain ⟨rv, hrv, -⟩ := Except.bind_eq_ok.1 h
    exact renderValue_ok_scalars hrv

theorem renderClass_ok {cells : List Cell} {c : Component} {k : PropertyClass} {r : String}
    (h : renderClass cells c k = .ok r) :
    ∀ a ∈ c.assignments, propertyClass a.prop = k → ∃ ra, renderAssignment cells a = .ok ra := by
  intro a ha hk
  obtain ⟨rs, hrs, -⟩ := Except.bind_eq_ok.1 h
  exact Except.mapM_eq_ok_mem hrs a (List.mem_filter.2 ⟨ha, by simp [hk]⟩)

/-- **A rendered component has rendered every assignment of a known property.** -/
theorem renderComponent_ok_scalars {cells : List Cell} {c : Component} {r : String}
    (h : renderComponent cells c = .ok r) :
    ∀ a ∈ c.assignments, propertyClass a.prop ≠ .invalid →
      ∀ s ∈ a.value.scalars, s.dividesByZero = false := by
  simp only [renderComponent] at h
  obtain ⟨styles, hstyles, h⟩ := Except.bind_eq_ok.1 h
  obtain ⟨attrs, hattrs, h⟩ := Except.bind_eq_ok.1 h
  obtain ⟨content, hcontent, -⟩ := Except.bind_eq_ok.1 h
  intro a ha hk
  -- the class of `a` is rendered by one of the three `renderClass` calls
  obtain ⟨ra, hra⟩ : ∃ ra, renderAssignment cells a = .ok ra := by
    cases hc : propertyClass a.prop with
    | style => exact renderClass_ok hstyles a ha hc
    | functional => exact renderClass_ok hattrs a ha hc
    | child => exact renderClass_ok hcontent a ha hc
    | invalid => exact absurd hc hk
  exact renderAssignment_ok_scalars hk hra

theorem renderInstance_ok_scalars {cells : List Cell} {place : Place} {i : Instance} {r : String}
    (h : renderInstance cells place i = .ok r) : ∀ s ∈ i.scalars, s.dividesByZero = false := by
  simp only [renderInstance] at h
  obtain ⟨rs, hrs, -⟩ := Except.bind_eq_ok.1 h
  intro s hs
  obtain ⟨arg, harg, hs⟩ := List.mem_flatMap.1 hs
  obtain ⟨ra, hra⟩ := Except.mapM_eq_ok_mem hrs arg harg
  obtain ⟨rv, hrv, -⟩ := Except.bind_eq_ok.1 hra
  exact renderValue_ok_scalars hrv s hs

theorem renderView_ok_scalars {cells : List Cell} {v : View} {r : String}
    (h : renderView cells v = .ok r) :
    ∀ s ∈ v.usages.flatMap Usage.scalars, s.dividesByZero = false := by
  simp only [renderView] at h
  obtain ⟨rs, hrs, -⟩ := Except.bind_eq_ok.1 h
  intro s hs
  obtain ⟨u, hu, hs⟩ := List.mem_flatMap.1 hs
  obtain ⟨ru, hru⟩ := Except.mapM_eq_ok_mem hrs u hu
  cases u with
  | ref n l => simp [Usage.scalars] at hs
  | inst i =>
    obtain ⟨ri, hri, -⟩ := Except.bind_eq_ok.1 hru
    exact renderInstance_ok_scalars hri s hs

/-- **A rendered definition section** has rendered the cells' values, every
component and every variable. -/
theorem renderDefinition_ok_parts {cells : List Cell} {d : Definition} {defs : String}
    (h : renderDefinition cells d = .ok defs) :
    (∀ c ∈ cells, ∃ r, renderValue cells .definition c.initial = .ok r) ∧
      (∀ comp ∈ d.components, ∃ r, renderComponent cells comp = .ok r) ∧
      ∀ v ∈ d.vars, ∃ r, renderInstance cells .definition v.inst = .ok r := by
  simp only [renderDefinition] at h
  obtain ⟨decls, hdecls, h⟩ := Except.bind_eq_ok.1 h
  obtain ⟨comps, hcomps, h⟩ := Except.bind_eq_ok.1 h
  obtain ⟨vars, hvars, -⟩ := Except.bind_eq_ok.1 h
  refine ⟨fun c hc => ?_, Except.mapM_eq_ok_mem hcomps, fun v hv => ?_⟩
  · obtain ⟨line, hline⟩ := Except.mapM_eq_ok_mem hdecls c hc
    obtain ⟨r, hr, -⟩ := renderCell_eq_ok.1 hline
    exact ⟨r, hr⟩
  · obtain ⟨line, hline⟩ := Except.mapM_eq_ok_mem hvars v hv
    obtain ⟨r, hr, -⟩ := Except.bind_eq_ok.1 hline
    exact ⟨r, hr⟩

/-! ## What hoisting keeps -/

/-- Rebinding the first assignment of a property loses only that assignment. -/
theorem mem_rebindFirst_or (prop cell : String) {a : Assignment} :
    ∀ {as : List Assignment}, a ∈ as →
      a ∈ rebindFirst prop cell as ∨ as.find? (·.prop == prop) = some a
  | [], h => absurd h List.not_mem_nil
  | b :: as, h => by
    by_cases hb : b.prop = prop
    · have hr : rebindFirst prop cell (b :: as) = { b with value := cellRef cell } :: as := by
        simp [rebindFirst, hb]
      rw [hr]
      rcases List.mem_cons.1 h with rfl | h
      · exact .inr (by simp [hb])
      · exact .inl (List.mem_cons_of_mem _ h)
    · have hr : rebindFirst prop cell (b :: as) = b :: rebindFirst prop cell as := by
        simp [rebindFirst, hb]
      rw [hr]
      rcases List.mem_cons.1 h with rfl | h
      · exact .inl List.mem_cons_self
      · rcases mem_rebindFirst_or prop cell h with h | h
        · exact .inl (List.mem_cons_of_mem _ h)
        · exact .inr (by simp [hb, h])

/-- Rebinding a property of the first component of a name loses only the
assignment that gives the property its value. -/
theorem mem_rebindIn_or (comp prop cell : String) {c : Component} {a : Assignment} :
    ∀ {cs : List Component}, c ∈ cs → a ∈ c.assignments →
      (∃ c' ∈ rebindIn comp prop cell cs, a ∈ c'.assignments) ∨
        ∃ c₀, cs.find? (·.name == comp) = some c₀ ∧ c₀.assignments.find? (·.prop == prop) = some a
  | [], hc, _ => absurd hc List.not_mem_nil
  | b :: cs, hc, ha => by
    by_cases hb : b.name = comp
    · have hr : rebindIn comp prop cell (b :: cs) =
          { b with assignments := rebindFirst prop cell b.assignments } :: cs := by
        simp [rebindIn, hb]
      rw [hr]
      rcases List.mem_cons.1 hc with rfl | hc
      · rcases mem_rebindFirst_or prop cell ha with ha | ha
        · exact .inl ⟨_, List.mem_cons_self, ha⟩
        · exact .inr ⟨c, by simp [hb], ha⟩
      · exact .inl ⟨c, List.mem_cons_of_mem _ hc, ha⟩
    · have hr : rebindIn comp prop cell (b :: cs) = b :: rebindIn comp prop cell cs := by
        simp [rebindIn, hb]
      rw [hr]
      rcases List.mem_cons.1 hc with rfl | hc
      · exact .inl ⟨c, List.mem_cons_self, ha⟩
      · rcases mem_rebindIn_or comp prop cell hc ha with ⟨c', hc', ha'⟩ | ⟨c₀, hc₀, ha₀⟩
        · exact .inl ⟨c', List.mem_cons_of_mem _ hc', ha'⟩
        · exact .inr ⟨c₀, by simp [hb, hc₀], ha₀⟩

/-- Rebinding a member loses only the assignment that gives its property a
value. -/
theorem mem_rebindMember_or {d : Definition} (m : Member) {c : Component} {a : Assignment}
    (hc : c ∈ d.components) (ha : a ∈ c.assignments) :
    (∃ c' ∈ (rebindMember d m).components, a ∈ c'.assignments) ∨
      assignedValue d m.obj m.prop = some a.value := by
  rcases mem_rebindIn_or m.obj m.prop m.cell hc ha with h | ⟨c₀, hc₀, ha₀⟩
  · exact .inl h
  · exact .inr (by simp [assignedValue_eq_bind, hc₀, ha₀])

/-- **Rebinding members of distinct properties loses only their assignments:**
every assignment is kept, or gives one of the members' properties its value. -/
theorem mem_foldl_rebindMember_or {c : Component} {a : Assignment} :
    ∀ (ms : List Member), (ms.map Member.pair).Nodup → ∀ (d : Definition),
      c ∈ d.components → a ∈ c.assignments →
        (∃ c' ∈ (ms.foldl rebindMember d).components, a ∈ c'.assignments) ∨
          ∃ m ∈ ms, assignedValue d m.obj m.prop = some a.value
  | [], _, _, hc, ha => .inl ⟨c, hc, ha⟩
  | m :: ms, hnd, d, hc, ha => by
    obtain ⟨hm, hnd⟩ := List.nodup_cons.1 hnd
    rcases mem_rebindMember_or m hc ha with ⟨c', hc', ha'⟩ | h
    · rcases mem_foldl_rebindMember_or ms hnd (rebindMember d m) hc' ha' with h | ⟨m', hm', h⟩
      · exact .inl h
      · -- a later member names another property, whose value rebinding `m` kept
        have hne : m.pair ≠ (m'.obj, m'.prop) := fun he => hm (he ▸ List.mem_map_of_mem hm')
        rw [assignedValue_rebindMember, if_neg hne] at h
        exact .inr ⟨m', List.mem_cons_of_mem _ hm', h⟩
    · exact .inr ⟨m, List.mem_cons_self, h⟩

/-- **Hoisting loses no assignment:** each one is kept in the rebound section,
or its value is a cell's initial value. -/
theorem hoist_keeps_assignments {d : Definition} {view : String} {cells : List Cell}
    {d' : Definition} (h : hoist d view = .ok (cells, d')) {c : Component} {a : Assignment}
    (hc : c ∈ d.components) (ha : a ∈ c.assignments) :
    (∃ c' ∈ d'.components, a ∈ c'.assignments) ∨ ∃ cell ∈ cells, cell.initial = a.value := by
  obtain ⟨cs, hcs, rfl, rfl⟩ := hoist_eq_ok.1 h
  -- the picked members have distinct names, hence name distinct properties
  have hnd : ((cellMembers [viewCell] d.members).map Member.pair).Nodup := by
    have hcells := (cellMembers_fresh [viewCell] d.members).1
    rw [show Member.cell = (fun p : String × String => cellName p.1 p.2) ∘ Member.pair from rfl,
      ← List.map_map] at hcells
    exact hcells.of_map _
  rcases mem_foldl_rebindMember_or _ hnd d hc ha with h | ⟨m, hm, hv⟩
  · exact .inl h
  · obtain ⟨cell, hcell, hdecl⟩ := Except.mapM_eq_ok_exists hcs m hm
    have hinit := (declaredCell_eq_ok.1 hdecl).2
    rw [hv] at hinit
    exact .inr ⟨cell, List.mem_cons_of_mem _ hcell, (Option.some.inj hinit).symm⟩

/-! ## Generation renders every scalar -/

/-- A clean property type check leaves no assignment of an unknown property. -/
theorem propertyClass_ne_invalid {p : Program} {defFile : String}
    (h : Check.checkProperties p defFile = []) {c : Component} (hc : c ∈ p.definition.components)
    {a : Assignment} (ha : a ∈ c.assignments) : propertyClass a.prop ≠ .invalid := by
  have hcomp := List.flatMap_eq_nil_iff.1 h c hc
  have hassign := List.flatMap_eq_nil_iff.1 (List.append_eq_nil_iff.1 hcomp).2 a ha
  intro hk
  simp [Check.checkAssignment, hk] at hassign

/-- **A checked program's App divides by no zero:** every scalar of the program
was rendered, and none divides by the literal `0`. -/
theorem generate_ok_scalars {p : Program} {defFile : String}
    (hacc : Check.analyze p defFile = none) {out : String} (hg : generate p = .ok out) :
    ∀ s ∈ p.scalars, s.dividesByZero = false := by
  have hprops := Check.run_eq_nil_of_analyze hacc .properties
  obtain ⟨-, cells, d', defs, pages, hh, hd, hp, -⟩ := generate_eq_ok.1 hg
  obtain ⟨hcells, hcomps, hvars⟩ := renderDefinition_ok_parts hd
  intro s hs
  rcases List.mem_append.1 hs with hs | hs
  rcases List.mem_append.1 hs with hs | hs
  · -- a component's assignment, kept by hoisting or moved into a cell
    obtain ⟨c, hc, hs⟩ := List.mem_flatMap.1 hs
    obtain ⟨a, ha, hs⟩ := List.mem_flatMap.1 hs
    rcases hoist_keeps_assignments hh hc ha with ⟨c', hc', ha'⟩ | ⟨cell, hcell, hinit⟩
    · obtain ⟨r, hr⟩ := hcomps c' hc'
      exact renderComponent_ok_scalars hr a ha' (propertyClass_ne_invalid hprops hc ha) s hs
    · obtain ⟨r, hr⟩ := hcells cell hcell
      exact renderValue_ok_scalars hr s (hinit ▸ hs)
  · -- a variable's argument; hoisting leaves the variables alone
    obtain ⟨v, hv, hs⟩ := List.mem_flatMap.1 hs
    obtain ⟨cs, -, -, rfl⟩ := hoist_eq_ok.1 hh
    rw [← (foldl_rebindMember_frame _ _).2] at hv
    obtain ⟨r, hr⟩ := hvars v hv
    exact renderInstance_ok_scalars hr s hs
  · obtain ⟨v, hv, hs⟩ := List.mem_flatMap.1 hs
    obtain ⟨r, hr⟩ := Except.mapM_eq_ok_mem hp v hv
    exact renderView_ok_scalars hr s hs

/-- **No literal division by zero escapes generation.** A program that passes
every check and divides by the literal `0` anywhere, in a component, a variable
or a view, is not generated. -/
theorem accepted_zero_division_fails {p : Program} {defFile : String}
    (hacc : Check.analyze p defFile = none) (hdiv : ∃ s ∈ p.scalars, s.dividesByZero = true) :
    ∃ e, generate p = .error e := by
  obtain ⟨s, hs, hzero⟩ := hdiv
  cases hg : generate p with
  | error e => exact ⟨e, rfl⟩
  | ok out =>
    have := generate_ok_scalars hacc hg s hs
    rw [hzero] at this
    cases this

/-- A picture whose width a button halves by zero. -/
def halvedByZero : Program where
  definition :=
    { components :=
        [{ kind := .picture, name := "Pic", line := 1, params := [],
           assignments := [⟨"width", .scalar (.num 100), 2⟩] },
         { kind := .button, name := "Shrink", line := 4, params := [],
           assignments := [⟨"onclick", .call ⟨.setProperty, "set",
             [.member ⟨"Pic", 5, "width"⟩,
              .scalar (.arith (.member ⟨"Pic", 5, "width"⟩) [(.div, .num 0)])]⟩, 5⟩] }]
      vars := [] }
  views := [⟨"Main", [.ref "Shrink" 1]⟩]
  defaultView := ""

theorem halvedByZero_not_generated :
    Check.analyze halvedByZero "App.def" = none ∧
      (∃ s ∈ halvedByZero.scalars, s.dividesByZero = true) ∧ ∃ e, generate halvedByZero = .error e := by
  have hacc : Check.analyze halvedByZero "App.def" = none := by decide
  have hdiv : ∃ s ∈ halvedByZero.scalars, s.dividesByZero = true :=
    ⟨.arith (.member ⟨"Pic", 5, "width"⟩) [(.div, .num 0)], by decide, rfl⟩
  exact ⟨hacc, hdiv, accepted_zero_division_fails hacc hdiv⟩

end Jsx

end UiLang
