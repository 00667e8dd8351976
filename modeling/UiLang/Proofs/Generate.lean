import UiLang.Proofs.Hoist
import UiLang.Jsx.App

/-!
# What a generated App is made of

`generate` checks that the start view exists, hoists the state cells, renders
the definition section and then every view. A successful run is the App head,
the definition section and the App tail (`generate_eq_ok`); a failed one failed
at exactly one of those stages (`generate_eq_error`). The definition section
opens with the cells' `useState` declarations, one per cell in order
(`renderDefinition_cells`).

Members and `set` calls render through the cells alone: a member whose cell
exists reads it (`renderMember_of_mem`), and `set(X.y, e)` calls the setter of
that cell (`renderCall_set_of_mem`).
-/

namespace UiLang.Jsx

/-- **A generated App** is the head, the definition section rendered with the
hoisted cells, and the tail with every view's page. -/
theorem generate_eq_ok {p : Program} {out : String} :
    generate p = .ok out ↔
      p.views.any (·.name == (Program.startView p)) = true ∧
        ∃ cells d' defs pages, hoist p.definition (Program.startView p) = .ok (cells, d') ∧
          renderDefinition cells d' = .ok defs ∧ p.views.mapM (renderView cells) = .ok pages ∧
          out = appHead ++ defs ++ appTail p.views (Program.startView p) pages := by
  unfold generate
  by_cases hv : p.views.any (·.name == (Program.startView p)) = true
  · simp only [hv, Bool.not_true, Bool.false_eq_true, if_false, true_and]
    constructor
    · intro h
      obtain ⟨⟨cells, d'⟩, hh, h⟩ := Except.bind_eq_ok.1 h
      obtain ⟨defs, hd, h⟩ := Except.bind_eq_ok.1 h
      obtain ⟨pages, hp, h⟩ := Except.bind_eq_ok.1 h
      exact ⟨cells, d', defs, pages, hh, hd, hp, (Except.ok.inj h).symm⟩
    · rintro ⟨cells, d', defs, pages, hh, hd, hp, rfl⟩
      simp [hh, hd, hp]
  · simp [hv]

/-- **A failed generation failed at one stage:** the start view is missing,
hoisting failed, the definition section failed, or a view failed. -/
theorem generate_eq_error {p : Program} {e : GenError} :
    generate p = .error e ↔
      (p.views.any (·.name == (Program.startView p)) = false ∧
        e = .missingDefaultView ((Program.startView p) ++ ".view")) ∨
      p.views.any (·.name == (Program.startView p)) = true ∧
        (hoist p.definition (Program.startView p) = .error e ∨
          ∃ cells d', hoist p.definition (Program.startView p) = .ok (cells, d') ∧
            (renderDefinition cells d' = .error e ∨
              ∃ defs, renderDefinition cells d' = .ok defs ∧
                p.views.mapM (renderView cells) = .error e)) := by
  unfold generate
  by_cases hv : p.views.any (·.name == (Program.startView p)) = true
  · simp only [hv, Bool.not_true, Bool.false_eq_true, if_false, true_and, Bool.true_eq_false,
      false_and, false_or]
    rw [Except.bind_eq_error]
    refine or_congr Iff.rfl ⟨fun ⟨⟨cells, d'⟩, hh, h⟩ => ⟨cells, d', hh, ?_⟩,
      fun ⟨cells, d', hh, h⟩ => ⟨(cells, d'), hh, ?_⟩⟩
    · rcases Except.bind_eq_error.1 h with h | ⟨defs, hd, h⟩
      · exact .inl h
      · rcases Except.bind_eq_error.1 h with h | ⟨pages, -, h⟩
        · exact .inr ⟨defs, hd, h⟩
        · simp at h
    · rcases h with h | ⟨defs, hd, h⟩
      · exact Except.bind_eq_error.2 (.inl h)
      · exact Except.bind_eq_error.2 (.inr ⟨defs, hd, Except.bind_eq_error.2 (.inl h)⟩)
  · have hv' : p.views.any (·.name == (Program.startView p)) = false := by simpa using hv
    simp [hv', eq_comm]

theorem renderCell_eq_ok {cells : List Cell} {c : Cell} {line : String} :
    renderCell cells c = .ok line ↔
      ∃ r, renderValue cells .definition c.initial = .ok r ∧
        line = "\tconst [" ++ c.name ++ ", " ++ setterName c.name ++ "] = useState(" ++ r ++ ");\n" := by
  simp only [renderCell, Except.bind_eq_ok, Except.pure_eq_ok, Except.ok.injEq, Cell.setter]
  exact exists_congr fun r => and_congr Iff.rfl eq_comm

/-- **The definition section opens with the cells' declarations,** one per
cell and in order, then a blank line. -/
theorem renderDefinition_cells {cells : List Cell} {d : Definition} {defs : String}
    (h : renderDefinition cells d = .ok defs) :
    ∃ decls rest, List.Forall₂ (fun c line => renderCell cells c = .ok line) cells decls ∧
      defs = String.join decls ++ "\n" ++ rest := by
  unfold renderDefinition at h
  obtain ⟨decls, hdecls, h⟩ := Except.bind_eq_ok.1 h
  obtain ⟨comps, -, h⟩ := Except.bind_eq_ok.1 h
  obtain ⟨vars, -, h⟩ := Except.bind_eq_ok.1 h
  refine ⟨decls, String.join comps ++ "\n" ++ String.join vars ++ "\n",
    Except.mapM_eq_ok.1 hdecls, ?_⟩
  rw [← Except.ok.inj h]
  simp only [String.append_assoc]

/-- **A member whose cell exists reads it.** -/
theorem renderMember_of_mem {cells : List Cell} {m : Member} (h : m.cell ∈ cells.map Cell.name) :
    renderMember cells m = .ok m.cell := by
  have hs : (findCell cells (cellName m.obj m.prop)).isSome := findCell_isSome.2 h
  simp [renderMember, hs, Member.cell]

/-- **`set(X.y, e)` calls the setter of `X.y`'s cell on the rendering of `e`.** -/
theorem renderCall_set_of_mem {cells : List Cell} {m : Member} (h : m.cell ∈ cells.map Cell.name)
    (name : String) (e : Arg) :
    renderCall cells .definition ⟨.setProperty, name, [.member m, e]⟩ =
      (fun r => setterName m.cell ++ "(" ++ r ++ ");") <$> renderArg cells e := by
  obtain ⟨c, hc⟩ := Option.isSome_iff_exists.1 (findCell_isSome.2 h)
  have hname : c.name = m.cell := findCell_name hc
  simp only [renderCall, Member.cell] at hc ⊢
  rw [hc]
  cases renderArg cells e <;> simp [Cell.setter, hname, Member.cell, Functor.map, Except.map]

end UiLang.Jsx
