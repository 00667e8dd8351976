import UiLang.Proofs.NameResolution
import UiLang.Program.Load

/-!
# Inferred parameters are the names a component reads

The builder gives every component the names its assignments read, each once and
in order of first use (`inferParams`): names given as values, list items, call
arguments and operands, and the component of every member `X.y`. Keeping first
occurrences is the library's `List.eraseDups` (`firstOccurrences_eq_eraseDups`),
and leaves no name twice (`firstOccurrences_nodup`).

The parameter scope check asks of each name assigned directly to a property
that it be a parameter. A name so assigned is read, so it is a parameter, and
the check finds nothing in a loaded definition section
(`loaded_params_are_free_names`).
-/

namespace UiLang

/-- The names a component's assignments read, in reading order, repeats kept. -/
def Component.readNames (c : Component) : List String :=
  c.assignments.flatMap fun a => a.value.uses.map Prod.fst

/-! ## First occurrences -/

namespace firstOccurrences

/-- Walking with `seen` keeps the first occurrences of the elements not in `seen`. -/
theorem go_eq_eraseDups : ∀ (seen l : List String),
    go seen l = (l.filter fun x => x ∉ seen).eraseDups
  | _, [] => rfl
  | seen, x :: l => by
    by_cases hx : x ∈ seen
    · rw [go, if_pos hx, go_eq_eraseDups seen l, List.filter_cons_of_neg (by simpa using hx)]
    · rw [go, if_neg hx, go_eq_eraseDups (x :: seen) l, List.filter_cons_of_pos (by simpa using hx),
        List.eraseDups_cons, List.filter_filter]
      -- being new to `x :: seen` is being new to `seen` and other than `x`
      congr 2
      apply List.filter_congr
      intro y _
      by_cases hy : y = x <;> simp [hy, hx]

theorem go_nodup : ∀ (seen l : List String), (go seen l).Nodup
  | _, [] => List.nodup_nil
  | seen, x :: l => by
    by_cases hx : x ∈ seen
    · rw [go, if_pos hx]
      exact go_nodup seen l
    · rw [go, if_neg hx, List.nodup_cons]
      exact ⟨fun h => (mem_go.1 h).1 List.mem_cons_self, go_nodup (x :: seen) l⟩

end firstOccurrences

/-- **Keeping first occurrences is erasing later duplicates.** -/
theorem firstOccurrences_eq_eraseDups (l : List String) : firstOccurrences l = l.eraseDups := by
  simp [firstOccurrences, firstOccurrences.go_eq_eraseDups]

theorem firstOccurrences_nodup (l : List String) : (firstOccurrences l).Nodup :=
  firstOccurrences.go_nodup [] l

/-! ## Built components -/

/-- A built component's parameters are inferred from its own assignments. -/
theorem Component.ofSyntax_params {t : Syntax.ComponentDecl} {c : Component}
    (h : Component.ofSyntax t = .ok c) : c.params = inferParams c.assignments := by
  simp only [Component.ofSyntax] at h
  obtain ⟨as, -, h⟩ := Except.bind_eq_ok.1 h
  cases h
  rfl

theorem Definition.ofSyntax_params {t : Syntax.DefFile} {d : Definition}
    (h : Definition.ofSyntax t = .ok d) : ∀ c ∈ d.components, c.params = inferParams c.assignments := by
  simp only [Definition.ofSyntax] at h
  obtain ⟨cs, hcs, h⟩ := Except.bind_eq_ok.1 h
  obtain ⟨vs, -, h⟩ := Except.bind_eq_ok.1 h
  cases h
  intro c hc
  obtain ⟨t, -, ht⟩ := Except.mapM_eq_ok_mem_right hcs c hc
  exact Component.ofSyntax_params ht

/-- **Every loaded component's parameters are inferred from its assignments.** -/
theorem Definition.load_params {s : String} {d : Definition} (h : Definition.load s = .ok d) :
    ∀ c ∈ d.components, c.params = inferParams c.assignments := by
  unfold Definition.load at h
  split at h
  · cases h
  · split at h
    · cases h
    · rename_i d₀ hd
      cases h
      exact Definition.ofSyntax_params hd

/-! ## The parameter scope check -/

/-- A name assigned directly to a property is a name the component reads. -/
theorem mem_readNames_of_directNames {c : Component} {n : String} {line : Nat}
    (h : (n, line) ∈ Check.directNames c) : n ∈ c.readNames := by
  obtain ⟨a, ha, hv⟩ := List.mem_filterMap.1 h
  obtain ⟨v, hv'⟩ : ∃ v, a.value = v := ⟨_, rfl⟩
  rw [hv'] at hv
  cases v with
  | scalar s =>
    cases s with
    | var n' l =>
      simp only [Option.some.injEq, Prod.mk.injEq] at hv
      obtain ⟨rfl, -⟩ := hv
      exact List.mem_flatMap.2 ⟨a, ha, by simp [hv', Value.uses, Scalar.uses]⟩
    | _ => cases hv
  | _ => cases hv

/-- **The scope check is clean** where every component's parameters include
the names it reads. -/
theorem checkParams_eq_nil {p : Program} {defFile : String}
    (h : ∀ c ∈ p.definition.components, ∀ n ∈ c.readNames, n ∈ c.params) :
    Check.checkParams p defFile = [] := by
  simp only [Check.checkParams, List.flatMap_eq_nil_iff, List.filterMap_eq_nil_iff]
  intro c hc ⟨n, line⟩ hn
  -- every directly assigned name is in scope: it is directly assigned and a parameter
  have hscope : n ∈ ((Check.directNames c).map Prod.fst).filter (· ∈ c.params) :=
    List.mem_filter.2 ⟨List.mem_map_of_mem hn, by simpa using h c hc n (mem_readNames_of_directNames hn)⟩
  simp [hscope]

/-- **Parameters are the free names, and parameter scope never fails.** In a
loaded definition section, each component's parameters are the names its
assignments read, without repeats and in order of first use; so the parameter
scope check finds nothing, whatever the views. -/
theorem loaded_params_are_free_names {s : String} {d : Definition} (h : Definition.load s = .ok d) :
    (∀ c ∈ d.components, c.params.Nodup ∧ c.params = c.readNames.eraseDups) ∧
      ∀ (views : List View) (defaultView defFile : String),
        Check.checkParams ⟨d, views, defaultView⟩ defFile = [] := by
  have hparams := Definition.load_params h
  refine ⟨fun c hc => ?_, fun views defaultView defFile => checkParams_eq_nil fun c hc n hn => ?_⟩
  · rw [hparams c hc, inferParams]
    exact ⟨firstOccurrences_nodup _, firstOccurrences_eq_eraseDups _⟩
  · rw [hparams c hc, inferParams, mem_firstOccurrences]
    exact hn

/-- A label that reads `caption` twice, and the width of a picture with a margin. -/
def captionedLabel : String :=
  "TEXT Label:\n\ttext = caption\n\tcolor = caption\n\twidth = Pic.width + pad\n"

theorem captionedLabel_params_free :
    ∃ d, Definition.load captionedLabel = .ok d ∧
      (∀ c ∈ d.components, c.params.Nodup ∧ c.params = c.readNames.eraseDups) ∧
      ∀ (views : List View) (defaultView defFile : String),
        Check.checkParams ⟨d, views, defaultView⟩ defFile = [] := by
  have hsome : (Definition.load captionedLabel).toOption.isSome = true := by decide +kernel
  obtain ⟨d, hd⟩ := Option.isSome_iff_exists.1 hsome
  have hload : Definition.load captionedLabel = .ok d := by
    revert hd
    cases Definition.load captionedLabel <;> simp [Except.toOption]
  exact ⟨d, hload, loaded_params_are_free_names hload⟩

end UiLang
