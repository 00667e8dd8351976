import UiLang.Proofs.LoadWellFormed

/-!
# Printing and loading are inverse

Printing writes a program part back as source text (`Definition.print`,
`View.print`). Loading that text gives the part again, up to line numbers, for
every part that some text loads to; and the parts that some text loads to are,
up to line numbers, exactly the well-formed ones (`load_image_roundTrip`).

Line numbers do not decide well-formedness (`Definition.wellFormed_unlined`,
`View.wellFormed_unlined`), so a part equal to a loaded one up to line numbers is
well formed as the loaded one is.
-/

namespace UiLang

/-! ## Well-formedness does not look at line numbers -/

@[simp] theorem Member.wellFormed_unlined (m : Member) : m.unlined.WellFormed ↔ m.WellFormed :=
  Iff.rfl

@[simp] theorem Operand.wellFormed_unlined (o : Operand) : o.unlined.WellFormed ↔ o.WellFormed := by
  cases o <;> rfl

@[simp] theorem Scalar.wellFormed_unlined (s : Scalar) : s.unlined.WellFormed ↔ s.WellFormed := by
  cases s <;> simp only [Scalar.unlined, Scalar.WellFormed, Operand.wellFormed_unlined, ne_eq,
    List.map_eq_nil_iff, List.forall_mem_map]

@[simp] theorem Arg.wellFormed_unlined (a : Arg) : a.unlined.WellFormed ↔ a.WellFormed := by
  cases a with
  | member m => exact Iff.rfl
  | view n => exact Iff.rfl
  | scalar s => exact s.wellFormed_unlined

@[simp] theorem Call.wellFormed_unlined (c : Call) : c.unlined.WellFormed ↔ c.WellFormed := by
  simp [Call.unlined, Call.WellFormed]

@[simp] theorem Value.wellFormed_unlined (v : Value) : v.unlined.WellFormed ↔ v.WellFormed := by
  cases v <;> simp [Value.unlined, Value.WellFormed]

@[simp] theorem Value.isCall_unlined (v : Value) : v.unlined.isCall = v.isCall := by
  cases v <;> rfl

@[simp] theorem Assignment.wellFormed_unlined (a : Assignment) :
    a.unlined.WellFormed ↔ a.WellFormed := by
  simp [Assignment.unlined, Assignment.WellFormed]

@[simp] theorem Component.wellFormed_unlined (c : Component) :
    c.unlined.WellFormed ↔ c.WellFormed := by
  simp [Component.unlined, Component.WellFormed, inferParams_unlined]

@[simp] theorem Instance.wellFormed_unlined (i : Instance) : i.unlined.WellFormed ↔ i.WellFormed := by
  simp only [Instance.unlined, Instance.WellFormed, List.forall_mem_map, Value.wellFormed_unlined,
    Value.isCall_unlined]

@[simp] theorem Variable.wellFormed_unlined (v : Variable) : v.unlined.WellFormed ↔ v.WellFormed := by
  simp [Variable.unlined, Variable.WellFormed]

@[simp] theorem Definition.wellFormed_unlined (d : Definition) :
    d.unlined.WellFormed ↔ d.WellFormed := by
  simp [Definition.unlined, Definition.WellFormed]

@[simp] theorem Usage.wellFormed_unlined (u : Usage) : u.unlined.WellFormed ↔ u.WellFormed := by
  cases u with
  | ref n line => exact Iff.rfl
  | inst i => exact and_congr i.wellFormed_unlined (by simp [Instance.unlined])

@[simp] theorem View.wellFormed_unlined (v : View) : v.unlined.WellFormed ↔ v.WellFormed := by
  simp [View.unlined, View.WellFormed]

theorem Definition.wellFormed_of_unlined_eq {d d' : Definition} (h : d'.unlined = d.unlined) :
    d'.WellFormed ↔ d.WellFormed := by
  rw [← Definition.wellFormed_unlined, h, Definition.wellFormed_unlined]

theorem View.wellFormed_of_unlined_eq {v v' : View} (h : v'.unlined = v.unlined) :
    v'.WellFormed ↔ v.WellFormed := by
  rw [← View.wellFormed_unlined, h, View.wellFormed_unlined]

/-! ## The round trip -/

/-- **Printing and loading are inverse, on exactly the well-formed parts.**
A definition section loaded from any text is printed to a text that loads to it
again, up to line numbers; and a definition section is, up to line numbers, the
result of loading some text exactly when it is well formed. Likewise for a view
loaded under a name, which keeps that name. -/
theorem load_image_roundTrip :
    (∀ s d, Definition.load s = .ok d →
      ∃ d', Definition.load d.print = .ok d' ∧ d'.unlined = d.unlined) ∧
    (∀ d : Definition,
      (∃ s d', Definition.load s = .ok d' ∧ d'.unlined = d.unlined) ↔ d.WellFormed) ∧
    (∀ name s v, View.load name s = .ok v →
      ∃ v', View.load name v.print = .ok v' ∧ v'.unlined = v.unlined) ∧
    (∀ name (v : View),
      (∃ s v', View.load name s = .ok v' ∧ v'.unlined = v.unlined) ↔
        v.WellFormed ∧ v.name = name) := by
  refine ⟨fun s d h => Definition.load_print (Definition.load_wellFormed h), fun d => ⟨?_, ?_⟩,
    fun name s v h => ?_, fun name v => ⟨?_, ?_⟩⟩
  · rintro ⟨s, d', h, hu⟩
    exact (Definition.wellFormed_of_unlined_eq hu).1 (Definition.load_wellFormed h)
  · intro h
    obtain ⟨d', hl, hu⟩ := Definition.load_print h
    exact ⟨d.print, d', hl, hu⟩
  · obtain ⟨hwf, rfl⟩ := View.load_wellFormed h
    exact View.load_print hwf
  · rintro ⟨s, v', h, hu⟩
    obtain ⟨hwf, hname⟩ := View.load_wellFormed h
    -- the name is kept by `unlined`, so the two views have the same name
    have hn : v'.name = v.name := by simpa [View.unlined] using congrArg View.name hu
    exact ⟨(View.wellFormed_of_unlined_eq hu).1 hwf, hn ▸ hname⟩
  · rintro ⟨h, rfl⟩
    obtain ⟨v', hl, hu⟩ := View.load_print h
    exact ⟨v.print, v', hl, hu⟩

end UiLang
