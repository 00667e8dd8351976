import UiLang.Proofs.ParseRecovery

/-!
# Building fails only on a number that does not fit

Building a tree refuses a number that `strconv.Atoi` refuses, an unknown
operator and a list with no items. On the trees a clean parse returns only the
first can happen, and only as out of range: their numbers are runs of digits
and their operators operator symbols, as scanning makes them
(`ArithToken.Scanned`), and their lists have items (`DefFile.Shaped`).

`FailsAt bad r xs` says that a build `r` fails exactly at the first of the
tokens `xs` that `bad` rejects, with that error. On such trees each builder
fails so at the numbers that do not fit (`ArithToken.overflow`); the builder of
a definition file at the first of them, placed in the component and property
or the variable it was written in (`Definition.ofSyntax_failsAt`), and the
builder of a view with the view's name (`View.ofSyntax_failsAt`). Arithmetic is
built term by term before its operators are resolved, which changes nothing
here, as no operator fails.

With the parser's side (`DefFile.parse_arithTokens`), building a file that
parses cleanly fails exactly when a number of its text does not fit, at the
first such number of the text, and every operator of the text is one of the
four (`build_fails_only_on_overflow`).
-/

namespace UiLang

open Token Syntax

/-- The error of a number that does not fit; an operator never fails. -/
def Syntax.ArithToken.overflow : ArithToken → Option BuildFault
  | .number t => if digitsValue t.text ≤ maxNumber then none else some (.number t.line t.text .range)
  | .operator _ => none

/-- A number or operator token as scanning makes it: a run of ASCII digits, or
one operator character. -/
def Syntax.ArithToken.Scanned : ArithToken → Prop
  | .number t => Lexical .number t.text.toList
  | .operator t => Lexical .arithOp t.text.toList

@[simp] theorem Syntax.ArithToken.overflow_operator (t : Token) : (ArithToken.operator t).overflow = none :=
  rfl

/-- The error of a number that does not fit, at the place it was written. -/
def overflowAt (x : BuildPlace × ArithToken) : Option BuildError :=
  x.2.overflow.map (BuildError.mk x.1)

/-- The numbers and operators of a component's property lines, each with the
component and property it was written in. -/
def Syntax.ComponentDecl.placedArith (c : ComponentDecl) : List (BuildPlace × ArithToken) :=
  c.properties.flatMap fun l => l.rhs.arithTokens.map (BuildPlace.component c.name.text l.name.text, ·)

def Syntax.VariableDecl.placedArith (v : VariableDecl) : List (BuildPlace × ArithToken) :=
  v.inst.arithTokens.map (BuildPlace.variable v.name.text, ·)

/-- The numbers and operators of a definition file, each with its place. -/
def Syntax.DefFile.placedArith (d : DefFile) : List (BuildPlace × ArithToken) :=
  d.components.flatMap ComponentDecl.placedArith ++ d.vars.flatMap VariableDecl.placedArith

/-- The numbers and operators of the file of the view `name`, each with its place. -/
def Syntax.ViewFile.placedArith (name : String) (v : ViewFile) : List (BuildPlace × ArithToken) :=
  v.arithTokens.map (BuildPlace.view name, ·)

theorem DefFile.placedArith_tokens (d : DefFile) : d.placedArith.map Prod.snd = d.arithTokens := by
  simp [DefFile.placedArith, DefFile.arithTokens, ComponentDecl.placedArith,
    VariableDecl.placedArith, List.map_flatMap, Function.comp_def]
  rfl

theorem ViewFile.placedArith_tokens (name : String) (v : ViewFile) :
    (v.placedArith name).map Prod.snd = v.arithTokens := by
  simp [ViewFile.placedArith, Function.comp_def]

/-! ## Failing at the first rejected token -/

theorem findSome?_map_option {α β γ : Type} (f : α → Option β) (g : β → γ) :
    ∀ l : List α, l.findSome? (fun a => (f a).map g) = (l.findSome? f).map g
  | [] => rfl
  | a :: l => by
    cases h : f a <;> simp [h, findSome?_map_option f g l]

/-- The build `r` fails exactly at the first of `xs` that `bad` rejects, with
its error. -/
def FailsAt {α ε β : Type} (bad : α → Option ε) (r : Except ε β) (xs : List α) : Prop :=
  ∀ e, r = .error e ↔ xs.findSome? bad = some e

section FailsAt

variable {α ε β γ : Type} {bad : α → Option ε} {r : Except ε β} {xs ys : List α}

theorem FailsAt.ok (b : β) (h : ∀ a ∈ xs, bad a = none) : FailsAt bad (.ok b) xs := by
  intro e
  simp [List.findSome?_eq_none_iff.2 h]

theorem FailsAt.pure (b : β) : FailsAt bad (pure b : Except ε β) [] :=
  FailsAt.ok b (by simp)

theorem FailsAt.of_findSome?_eq (h : FailsAt bad r xs) (he : ys.findSome? bad = xs.findSome? bad) :
    FailsAt bad r ys := by
  intro e
  rw [he]
  exact h e

theorem FailsAt.findSome?_eq_none {b : β} (h : FailsAt bad (.ok b) xs) : xs.findSome? bad = none := by
  cases hx : xs.findSome? bad with
  | none => rfl
  | some e => cases (h e).2 hx

/-- A build that goes on from a result fails at the first's tokens, then at the
next's. -/
theorem FailsAt.bind {g : β → Except ε γ} (h : FailsAt bad r xs)
    (hg : ∀ b, r = .ok b → FailsAt bad (g b) ys) : FailsAt bad (r >>= g) (xs ++ ys) := by
  intro e
  rw [List.findSome?_append]
  cases r with
  | error e₀ =>
    rw [(h e₀).1 rfl, Option.some_or]
    exact ⟨fun he => by cases he; rfl, fun he => by cases he; rfl⟩
  | ok b =>
    rw [h.findSome?_eq_none, Option.none_or]
    exact hg b rfl e

theorem FailsAt.bind_pure (h : FailsAt bad r xs) (k : β → γ) :
    FailsAt bad (r >>= fun b => Pure.pure (k b)) xs := by
  have h' := h.bind fun b _ => FailsAt.pure (k b)
  rwa [List.append_nil] at h'

theorem FailsAt.map (h : FailsAt bad r xs) (k : β → γ) : FailsAt bad (k <$> r) xs := by
  intro e
  cases r with
  | error e₀ => simpa using h e
  | ok b =>
    rw [h.findSome?_eq_none]
    simp

/-- Building every element in turn fails at the first rejected token of all. -/
theorem FailsAt.mapM {σ : Type} {f : σ → Except ε β} {toks : σ → List α} {l : List σ}
    (h : ∀ a ∈ l, FailsAt bad (f a) (toks a)) : FailsAt bad (l.mapM f) (l.flatMap toks) := by
  induction l with
  | nil => exact .pure []
  | cons a l ih =>
    rw [List.mapM_cons, List.flatMap_cons, ← List.append_nil (l.flatMap toks)]
    exact (h a List.mem_cons_self).bind fun _ _ =>
      (ih fun a' ha' => h a' (List.mem_cons_of_mem a ha')).bind fun _ _ => .pure _

end FailsAt

/-- A build that names the place of its failure fails at the same number, now
at that place. -/
theorem FailsAt.placed {β : Type} {r : Except BuildFault β} {xs : List ArithToken}
    (h : FailsAt ArithToken.overflow r xs) (p : BuildPlace) :
    FailsAt overflowAt (r.mapError (BuildError.mk p)) (xs.map (p, ·)) := by
  intro e
  rw [List.findSome?_map]
  change _ ↔ xs.findSome? (fun a => a.overflow.map (BuildError.mk p)) = some e
  rw [findSome?_map_option]
  cases r with
  | error b =>
    rw [(h b).1 rfl]
    show Except.error ⟨p, b⟩ = Except.error e ↔ some ⟨p, b⟩ = some e
    simp
  | ok b =>
    rw [h.findSome?_eq_none]
    show Except.ok _ = Except.error e ↔ none = some e
    simp

/-- Building fails exactly when one of the tokens is rejected. -/
theorem FailsAt.exists_error_iff {α ε β : Type} {bad : α → Option ε} {r : Except ε β} {xs : List α}
    (h : FailsAt bad r xs) : (∃ e, r = .error e) ↔ ∃ a ∈ xs, (bad a).isSome := by
  rw [← List.findSome?_isSome_iff, Option.isSome_iff_exists]
  exact exists_congr h

/-! ## Each builder -/

/-- An operator token of a scanned text is one of the four operator symbols. -/
theorem ofSymbol?_isSome_of_lexical {t : Token} (hl : Lexical .arithOp t.text.toList) :
    (Operator.ofSymbol? t.text).isSome := by
  obtain ⟨c, hc, hp⟩ := hl
  have ht : t.text = String.ofList [c] := by rw [← hc, String.ofList_toList]
  rw [ht]
  unfold punctuation at hp
  split at hp <;> first | decide | cases hp

theorem readNumber_failsAt {t : Token} (h : Lexical .number t.text.toList) :
    FailsAt ArithToken.overflow (readNumber t) [.number t] := by
  intro e
  rw [readNumber_of_lexical h]
  split <;> simp [ArithToken.overflow, *]

/-- An operator symbol is known, so resolving it never fails. -/
theorem Operator.ofToken_failsAt {t : Token} (h : Lexical .arithOp t.text.toList) :
    FailsAt ArithToken.overflow (Operator.ofToken t) [] := by
  obtain ⟨op, hop⟩ := Option.isSome_iff_exists.1 (ofSymbol?_isSome_of_lexical h)
  unfold Operator.ofToken
  rw [hop]
  exact .pure op

theorem Operand.ofSyntax_failsAt : ∀ o : Syntax.Operand, (∀ a ∈ o.arithTokens, a.Scanned) →
    FailsAt ArithToken.overflow (Operand.ofSyntax o) o.arithTokens
  | .number t, hs => (readNumber_failsAt (hs _ List.mem_cons_self)).map _
  | .name _, _ => .ok _ (by simp [Operand.arithTokens])
  | .member _ _, _ => .ok _ (by simp [Operand.arithTokens])

/-- Operators never fail, so where building fails does not depend on where they
stand among the operands. -/
theorem findSome?_stepsArithTokens (steps : List (Token × Syntax.Operand)) :
    (stepsArithTokens steps).findSome? ArithToken.overflow =
      (steps.flatMap fun st => st.2.arithTokens).findSome? ArithToken.overflow := by
  induction steps with
  | nil => rfl
  | cons st steps ih =>
    simp only [stepsArithTokens, List.flatMap_cons, List.cons_append, List.findSome?_cons,
      ArithToken.overflow_operator, List.findSome?_append] at ih ⊢
    rw [ih]

theorem Scalar.ofSyntax_failsAt : ∀ s : Syntax.Scalar, (∀ a ∈ s.arithTokens, a.Scanned) →
    FailsAt ArithToken.overflow (Scalar.ofSyntax s) s.arithTokens
  | .string _, _ => .ok _ (by simp [Scalar.arithTokens])
  | .boolean _, _ => .ok _ (by simp [Scalar.arithTokens])
  | .number t, hs => (readNumber_failsAt (hs _ List.mem_cons_self)).map _
  | .name _, _ => .ok _ (by simp [Scalar.arithTokens])
  | .arith first steps, hs => by
    simp only [Scalar.arithTokens, List.forall_mem_append] at hs
    obtain ⟨hfirst, hsteps⟩ := hs
    have hstep : ∀ st ∈ steps,
        (ArithToken.operator st.1).Scanned ∧ ∀ a ∈ st.2.arithTokens, a.Scanned :=
      fun st hst => List.forall_mem_cons.1 (List.forall_mem_flatMap.1 hsteps st hst)
    -- every term is built, then every operator, which never fails
    have hops : FailsAt ArithToken.overflow (steps.mapM fun st => Operator.ofToken st.1) [] :=
      (FailsAt.mapM fun st hst => Operator.ofToken_failsAt (hstep st hst).1).of_findSome?_eq
        (by rw [List.flatMap_eq_nil_iff.2 fun _ _ => rfl])
    rw [Scalar.ofSyntax]
    refine ((Operand.ofSyntax_failsAt first hfirst).bind fun _ _ =>
      (FailsAt.mapM fun st hst => Operand.ofSyntax_failsAt st.2 (hstep st hst).2).bind fun _ _ =>
        hops.bind_pure _).of_findSome?_eq ?_
    simp only [Scalar.arithTokens, List.findSome?_append, findSome?_stepsArithTokens,
      List.append_nil]

theorem Arg.ofSyntax_failsAt : ∀ a : Syntax.Arg, (∀ x ∈ a.arithTokens, x.Scanned) →
    FailsAt ArithToken.overflow (Arg.ofSyntax a) a.arithTokens
  | .member _ _, _ => .ok _ (by simp [Arg.arithTokens])
  | .view _, _ => .ok _ (by simp [Arg.arithTokens])
  | .value v, hs => (Scalar.ofSyntax_failsAt v hs).map _

theorem Call.ofSyntax_failsAt (c : Syntax.Call) (hs : ∀ x ∈ c.arithTokens, x.Scanned) :
    FailsAt ArithToken.overflow (Call.ofSyntax c) c.arithTokens :=
  (FailsAt.mapM fun a ha => Arg.ofSyntax_failsAt a (List.forall_mem_flatMap.1 hs a ha)).bind_pure _

/-- A list with items is built item by item. -/
theorem Value.ofItems_failsAt : ∀ items : Items, items.Shaped →
    (∀ x ∈ items.arithTokens, x.Scanned) →
    FailsAt ArithToken.overflow (Value.ofItems items) items.arithTokens
  | .values vs, hshape, hs => by
    rw [Value.ofItems, if_neg (by simpa using hshape.1)]
    have hs' := List.forall_mem_flatMap.1 hs
    exact (FailsAt.mapM fun v hv => Scalar.ofSyntax_failsAt v (hs' v hv)).map _
  | .calls cs, hshape, hs => by
    rw [Value.ofItems, if_neg (by simpa using hshape.1)]
    have hs' := List.forall_mem_flatMap.1 hs
    exact (FailsAt.mapM fun c hc => Call.ofSyntax_failsAt c (hs' c hc)).map _

theorem Value.ofRhs_failsAt : ∀ rhs : Rhs, rhs.Shaped → (∀ x ∈ rhs.arithTokens, x.Scanned) →
    FailsAt ArithToken.overflow (Value.ofRhs rhs) rhs.arithTokens
  | .call c, _, hs => (Call.ofSyntax_failsAt c hs).map _
  | .list items, hshape, hs => Value.ofItems_failsAt items hshape hs
  | .value v, _, hs => (Scalar.ofSyntax_failsAt v hs).map _

theorem Value.ofSetting_failsAt : ∀ s : Setting, s.Shaped → (∀ x ∈ s.arithTokens, x.Scanned) →
    FailsAt ArithToken.overflow (Value.ofSetting s) s.arithTokens
  | .list items, hshape, hs => Value.ofItems_failsAt items hshape hs
  | .value v, _, hs => (Scalar.ofSyntax_failsAt v hs).map _

theorem Instance.ofSyntax_failsAt (i : Syntax.Instance) (hshape : i.Shaped)
    (hs : ∀ x ∈ i.arithTokens, x.Scanned) :
    FailsAt ArithToken.overflow (Instance.ofSyntax i) i.arithTokens := by
  rw [Instance.ofSyntax_eq]
  have hs' := List.forall_mem_flatMap.1 hs
  exact (FailsAt.mapM fun s hmem =>
    (Value.ofSetting_failsAt s.2 (hshape s hmem) (hs' s hmem)).bind_pure _).bind_pure _

theorem Usage.ofSyntax_failsAt : ∀ u : Syntax.Usage, u.Shaped → (∀ x ∈ u.arithTokens, x.Scanned) →
    FailsAt ArithToken.overflow (Usage.ofSyntax u) u.arithTokens
  | .name _, _, _ => .ok _ (by simp [Usage.arithTokens])
  | .inst i, hshape, hs => (Instance.ofSyntax_failsAt i hshape hs).map _

/-! ## Builders that name the place -/

theorem lineOfSyntax_eq_mapError (comp : String) (l : PropertyLine) :
    lineOfSyntax comp l = (fun v => ⟨l.name.text, v, l.name.line⟩) <$>
      (Value.ofRhs l.rhs).mapError (BuildError.mk (.component comp l.name.text)) := by
  unfold lineOfSyntax
  cases Value.ofRhs l.rhs <;> rfl

theorem Variable.ofSyntax_eq_mapError (v : VariableDecl) :
    Variable.ofSyntax v = (fun i => ⟨v.name.text, v.name.line, i⟩) <$>
      (Instance.ofSyntax v.inst).mapError (BuildError.mk (.variable v.name.text)) := by
  unfold Variable.ofSyntax
  cases Instance.ofSyntax v.inst <;> rfl

theorem View.ofSyntax_eq_mapError (name : String) (v : ViewFile) :
    View.ofSyntax name v = (fun us => ⟨name, us⟩) <$>
      (v.usages.mapM Usage.ofSyntax).mapError (BuildError.mk (.view name)) := by
  unfold View.ofSyntax
  cases v.usages.mapM Usage.ofSyntax <;> rfl

theorem Component.ofSyntax_failsAt (c : ComponentDecl) (hshape : c.Shaped)
    (hs : ∀ x ∈ c.arithTokens, x.Scanned) :
    FailsAt overflowAt (Component.ofSyntax c) c.placedArith := by
  rw [Component.ofSyntax_eq]
  refine (FailsAt.mapM fun l hl => ?_).bind_pure _
  rw [lineOfSyntax_eq_mapError]
  exact ((Value.ofRhs_failsAt l.rhs (hshape l hl) (List.forall_mem_flatMap.1 hs l hl)).placed _).map _

theorem Variable.ofSyntax_failsAt (v : VariableDecl) (hshape : v.inst.Shaped)
    (hs : ∀ x ∈ v.arithTokens, x.Scanned) :
    FailsAt overflowAt (Variable.ofSyntax v) v.placedArith := by
  rw [Variable.ofSyntax_eq_mapError]
  exact ((Instance.ofSyntax_failsAt v.inst hshape hs).placed _).map _

/-- **Building a well-shaped definition file of scanned tokens fails at its
first number that does not fit**, placed in the component and property or the
variable it was written in. -/
theorem Definition.ofSyntax_failsAt (d : DefFile) (hshape : d.Shaped)
    (hs : ∀ x ∈ d.arithTokens, x.Scanned) :
    FailsAt overflowAt (Definition.ofSyntax d) d.placedArith := by
  simp only [DefFile.arithTokens, List.forall_mem_append, List.forall_mem_flatMap] at hs
  exact (FailsAt.mapM fun c hc => Component.ofSyntax_failsAt c (hshape.1 c hc) (hs.1 c hc)).bind
    fun _ _ => (FailsAt.mapM fun v hv =>
      Variable.ofSyntax_failsAt v (hshape.2 v hv) (hs.2 v hv)).bind_pure _

/-- **Building a well-shaped view of scanned tokens fails at its first number
that does not fit**, placed in the view. -/
theorem View.ofSyntax_failsAt (name : String) (v : ViewFile) (hshape : v.Shaped)
    (hs : ∀ x ∈ v.arithTokens, x.Scanned) :
    FailsAt overflowAt (View.ofSyntax name v) (v.placedArith name) := by
  rw [View.ofSyntax_eq_mapError]
  have hs' := List.forall_mem_flatMap.1 hs
  exact ((FailsAt.mapM fun u hu => Usage.ofSyntax_failsAt u (hshape u hu) (hs' u hu)).placed _).map _

/-! ## Building what parses -/

/-- The numbers and operators of a scanned text are as scanning makes them. -/
theorem scanned_of_scan {s : String} {ts : List Token} (h : Token.scan s = .ok ts) :
    ∀ a ∈ ts.filterMap Token.arith?, a.Scanned := by
  intro a ha
  obtain ⟨t, ht, harith⟩ := List.mem_filterMap.1 ha
  have hl := scan_lexical h t ht
  unfold Token.arith? at harith
  split at harith
  · rename_i hk
    cases harith
    rwa [hk] at hl
  · rename_i hk
    cases harith
    rwa [hk] at hl
  · cases harith

/-- A clean parse returns the tree that parsing leaves, which is well shaped. -/
theorem DefFile.parse_shaped {s : String} {d : DefFile} (h : DefFile.parse s = .ok d) :
    d.Shaped := by
  unfold DefFile.parse at h
  split at h
  · cases h
  rename_i ts _
  have hshape := (DefFile.ofTokens_recovers ts).1
  split at h
  · rename_i heq
    cases h
    rwa [heq] at hshape
  · cases h

theorem ViewFile.parse_shaped {s : String} {v : ViewFile} (h : ViewFile.parse s = .ok v) :
    v.Shaped := by
  unfold ViewFile.parse at h
  split at h
  · cases h
  rename_i ts _
  have hshape := (ViewFile.ofTokens_recovers ts).1
  split at h
  · rename_i heq
    cases h
    rwa [heq] at hshape
  · cases h

/-- A number or operator of a token list fails exactly when it is a number
above the largest. -/
theorem exists_overflow_iff (ts : List Token) :
    (∃ a ∈ ts.filterMap Token.arith?, a.overflow.isSome) ↔
      ∃ t ∈ ts, t.kind = .number ∧ maxNumber < digitsValue t.text := by
  simp only [List.mem_filterMap]
  constructor
  · rintro ⟨a, ⟨t, ht, ha⟩, hover⟩
    unfold Token.arith? at ha
    split at ha
    · rename_i hk
      cases ha
      refine ⟨t, ht, hk, ?_⟩
      simp only [ArithToken.overflow] at hover
      split at hover
      · cases hover
      · omega
    · cases ha
      cases hover
    · cases ha
  · rintro ⟨t, ht, hk, hlt⟩
    refine ⟨.number t, ⟨t, ht, Token.arith?_of_number hk⟩, ?_⟩
    simp only [ArithToken.overflow]
    rw [if_neg (by omega)]
    rfl

/-- A build that fails at the first placed number that does not fit, of
tokens that are those of a text, fails exactly when the text has such a number. -/
theorem FailsAt.exists_error_iff_text {β : Type} {r : Except BuildError β}
    {xs : List (BuildPlace × ArithToken)} {ts : List Token} (h : FailsAt overflowAt r xs)
    (horder : xs.map Prod.snd = ts.filterMap Token.arith?) :
    (∃ e, r = .error e) ↔ ∃ t ∈ ts, t.kind = .number ∧ maxNumber < digitsValue t.text := by
  rw [h.exists_error_iff, ← exists_overflow_iff, ← horder]
  constructor
  · rintro ⟨x, hx, hs⟩
    exact ⟨x.2, List.mem_map_of_mem hx, by simpa [overflowAt] using hs⟩
  · rintro ⟨a, ha, hs⟩
    obtain ⟨x, hx, rfl⟩ := List.mem_map.1 ha
    exact ⟨x, hx, by simpa [overflowAt] using hs⟩

theorem scan_operators_known {s : String} {ts : List Token} (h : Token.scan s = .ok ts) :
    ∀ t ∈ ts, t.kind = .arithOp → (Operator.ofSymbol? t.text).isSome :=
  fun t ht hk => ofSymbol?_isSome_of_lexical (hk ▸ scan_lexical h t ht)

/-- **Building what parses cleanly fails only on a number that does not fit.**
For a definition file that parses with no error, the numbers and operators of
its tree, each placed in the component and property or the variable it was
written in, are those of its text, in order; building fails exactly at the
first of them that is a number above `2 ^ 63 - 1`, with its place, line and
text, and so exactly when the text has such a number; and every operator of the
text is one of the four symbols. The same holds for the file of a view, placed
in the view. -/
theorem build_fails_only_on_overflow :
    (∀ (s : String) (d : Syntax.DefFile), Syntax.DefFile.parse s = .ok d →
      ∃ ts, Token.scan s = .ok ts ∧ d.placedArith.map Prod.snd = ts.filterMap Token.arith? ∧
        (∀ e, Definition.ofSyntax d = .error e ↔ d.placedArith.findSome? overflowAt = some e) ∧
        ((∃ e, Definition.ofSyntax d = .error e) ↔
          ∃ t ∈ ts, t.kind = .number ∧ maxNumber < digitsValue t.text) ∧
        ∀ t ∈ ts, t.kind = .arithOp → (Operator.ofSymbol? t.text).isSome) ∧
    ∀ (name s : String) (v : Syntax.ViewFile), Syntax.ViewFile.parse s = .ok v →
      ∃ ts, Token.scan s = .ok ts ∧ (v.placedArith name).map Prod.snd = ts.filterMap Token.arith? ∧
        (∀ e, View.ofSyntax name v = .error e ↔ (v.placedArith name).findSome? overflowAt = some e) ∧
        ((∃ e, View.ofSyntax name v = .error e) ↔
          ∃ t ∈ ts, t.kind = .number ∧ maxNumber < digitsValue t.text) ∧
        ∀ t ∈ ts, t.kind = .arithOp → (Operator.ofSymbol? t.text).isSome := by
  refine ⟨fun s d h => ?_, fun name s v h => ?_⟩
  · obtain ⟨ts, hscan, htoks⟩ := DefFile.parse_arithTokens h
    have horder := (DefFile.placedArith_tokens d).trans htoks
    have hfail := Definition.ofSyntax_failsAt d (DefFile.parse_shaped h) (htoks ▸ scanned_of_scan hscan)
    exact ⟨ts, hscan, horder, hfail, hfail.exists_error_iff_text horder, scan_operators_known hscan⟩
  · obtain ⟨ts, hscan, htoks⟩ := ViewFile.parse_arithTokens h
    have horder := (ViewFile.placedArith_tokens name v).trans htoks
    have hfail := View.ofSyntax_failsAt name v (ViewFile.parse_shaped h) (htoks ▸ scanned_of_scan hscan)
    exact ⟨ts, hscan, horder, hfail, hfail.exists_error_iff_text horder, scan_operators_known hscan⟩

/-- A picture twice as wide as one above the largest number. -/
def doubledWidth : String := "PICTURE Pic:\n\twidth = 2 * 9223372036854775808\n"

/-- A picture given one above the largest number as its width in a view. -/
def doubledWidthView : String := "Pic WITH width = 9223372036854775808\n"

theorem doubledWidth_not_built :
    (∃ d, Syntax.DefFile.parse doubledWidth = .ok d ∧ ∃ e, Definition.ofSyntax d = .error e) ∧
      ∃ v, Syntax.ViewFile.parse doubledWidthView = .ok v ∧ ∃ e, View.ofSyntax "Main" v = .error e := by
  have hd : (Syntax.DefFile.parse doubledWidth).toOption.isSome = true := by decide +kernel
  have hv : (Syntax.ViewFile.parse doubledWidthView).toOption.isSome = true := by decide +kernel
  -- both texts have the one number, above the largest
  have hnum : ∀ s, (Token.scan s).toOption.map (fun ts => ts.any fun t =>
      t.kind == .number && decide (maxNumber < digitsValue t.text)) = some true →
      ∀ ts, Token.scan s = .ok ts → ∃ t ∈ ts, t.kind = .number ∧ maxNumber < digitsValue t.text := by
    intro s hs ts hts
    rw [hts] at hs
    simpa [Except.toOption] using hs
  obtain ⟨d, hd⟩ := Option.isSome_iff_exists.1 hd
  obtain ⟨v, hv⟩ := Option.isSome_iff_exists.1 hv
  have hd : Syntax.DefFile.parse doubledWidth = .ok d := by
    revert hd
    cases Syntax.DefFile.parse doubledWidth <;> simp [Except.toOption]
  have hv : Syntax.ViewFile.parse doubledWidthView = .ok v := by
    revert hv
    cases Syntax.ViewFile.parse doubledWidthView <;> simp [Except.toOption]
  obtain ⟨ts, hscan, -, -, hiff, -⟩ := build_fails_only_on_overflow.1 _ d hd
  obtain ⟨ts', hscan', -, -, hiff', -⟩ := build_fails_only_on_overflow.2 "Main" _ v hv
  exact ⟨⟨d, hd, hiff.2 (hnum _ (by decide +kernel) ts hscan)⟩,
    ⟨v, hv, hiff'.2 (hnum _ (by decide +kernel) ts' hscan')⟩⟩

end UiLang
