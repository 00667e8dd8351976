import UiLang.Proofs.Failures

/-!
# When a property is missing

A generation whose start view exists fails on a missing property exactly when
hoisting does (`generate_error_missingProperty`): rendering never reports one.
Hoisting looks up only the members that get a cell, and fails at the first of
them that has no value, either because no component has its name or because the
first component of that name does not assign the property
(`generate_missingProperty_iff`).

A member whose cell name is already taken, by an earlier member or by the view
cell, gets no cell and is never looked up. So `current.view`, or `ab.width`
after `Ab.width`, can name nothing at all and generation still succeeds. When
the cell names tell the properties apart, the members that get a cell are the
properties at their first mention, and a failure names the first member of the
whole section that has no value (`generate_missingProperty_iff_of_apart`).

Nothing is written on failure: `generate` gives the App's text or an error,
never a part of the text.
-/

namespace UiLang.Jsx

/-- The test that a member has no value in `d`. -/
def unassigned (d : Definition) (m : Member) : Bool :=
  (assignedValue d m.obj m.prop).isNone

/-- **Rendering never reports a missing property:** with the start view in
place, generation fails on one exactly when hoisting does. -/
theorem generate_error_missingProperty {p : Program} {r : String}
    (hview : p.views.any (·.name == Program.startView p) = true) :
    generate p = .error (.missingProperty r) ↔
      hoist p.definition (Program.startView p) = .error (.missingProperty r) := by
  constructor
  · intro h
    rcases generate_error_cases h with he | hh | hr
    · cases he
    · exact hh
    · exact hr.elim
  · intro hh
    exact generate_eq_error.2 (.inr ⟨hview, .inl hh⟩)

/-- **Hoisting fails at the first member with a cell and no value,** and names
it as written in source. -/
theorem hoist_missingProperty_iff {d : Definition} {view r : String} :
    hoist d view = .error (.missingProperty r) ↔
      ((cellMembers [viewCell] d.members).find? (unassigned d)).map
        (fun m => memberRef m.obj m.prop) = some r := by
  rw [hoist_eq_error_iff, Option.map_eq_some_iff]
  constructor
  · rintro ⟨m, hm, he⟩
    cases he
    exact ⟨m, hm, rfl⟩
  · rintro ⟨m, hm, rfl⟩
    exact ⟨m, hm, rfl⟩

/-- **Missing properties.** A program whose start view exists fails to generate
on a missing property exactly when, among the members that get a cell (each
member whose cell name is not taken before it), one has no value; the error
names the first of them. -/
theorem generate_missingProperty_iff {p : Program} {r : String}
    (hview : p.views.any (·.name == Program.startView p) = true) :
    generate p = .error (.missingProperty r) ↔
      ((cellMembers [viewCell] p.definition.members).find? (unassigned p.definition)).map
        (fun m => memberRef m.obj m.prop) = some r := by
  rw [generate_error_missingProperty hview, hoist_missingProperty_iff]

/-- A program whose button sets a property its picture never assigns. -/
def unassignedHeight : Program where
  definition :=
    { components :=
        [{ kind := .picture, name := "P", line := 1, params := [],
           assignments := [⟨"width", .scalar (.num 1), 2⟩] },
         { kind := .button, name := "B", line := 4, params := [],
           assignments := [⟨"onclick", .call ⟨.setProperty, "set",
             [.member ⟨"P", 5, "height"⟩, .scalar (.num 2)]⟩, 5⟩] }]
      vars := [] }
  views := [⟨"Main", [.ref "B" 1]⟩]
  defaultView := ""

theorem unassignedHeight_fails :
    generate unassignedHeight = .error (.missingProperty "P.height") :=
  (generate_missingProperty_iff (by decide)).2 (by decide)

/-- With cell names apart, the first member with a cell that passes a test of
its property is, as a property, the first member of the section that does. -/
theorem find?_cellMembers_pair {d : Definition} (hapart : CellNamesApart d)
    (q : String × String → Bool) :
    ((cellMembers [viewCell] d.members).find? (q ∘ Member.pair)).map Member.pair =
      (d.members.find? (q ∘ Member.pair)).map Member.pair := by
  rw [← List.find?_map, ← List.find?_map, cellMembers_pairs hapart, find?_eraseDups]

/-- **Missing properties, with cell names apart.** Then generation fails on a
missing property exactly when some member of the section has no value, and the
error names the first such member. -/
theorem generate_missingProperty_iff_of_apart {p : Program} {r : String}
    (hview : p.views.any (·.name == Program.startView p) = true)
    (hapart : CellNamesApart p.definition) :
    generate p = .error (.missingProperty r) ↔
      (p.definition.members.find? (unassigned p.definition)).map
        (fun m => memberRef m.obj m.prop) = some r := by
  -- the reference depends on the member's property only
  have hfirst : ((cellMembers [viewCell] p.definition.members).find? (unassigned p.definition)).map
        (fun m => memberRef m.obj m.prop) =
      (p.definition.members.find? (unassigned p.definition)).map (fun m => memberRef m.obj m.prop) := by
    have h := congrArg (Option.map fun xy : String × String => memberRef xy.1 xy.2)
      (find?_cellMembers_pair hapart fun xy => (assignedValue p.definition xy.1 xy.2).isNone)
    rw [Option.map_map, Option.map_map] at h
    exact h
  rw [generate_error_missingProperty hview, hoist_missingProperty_iff, hfirst]

end UiLang.Jsx
