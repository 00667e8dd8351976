import UiLang.Proofs.LoadWellFormed

/-!
# A clean parse keeps every number and operator

Building reads the value of two kinds of token: numbers, and the operators of
arithmetic. A file that parses with no error keeps each such token of its text
in its tree, in order (`DefFile.parse_arithTokens`, `ViewFile.parse_arithTokens`):
the parser puts a number only where an operand stands and an operator only
between two operands, and reports every other place it meets one.

The parser is taken one function at a time, as in `UiLang.Proofs.LoadWellFormed`.
From a cursor, each function either records an error, or returns a tree whose
numbers and operators are those of the tokens it moved past (`Cursor.Keeps`).
Errors are only ever added, so a parse that ends with none recorded none on the
way.
-/

namespace UiLang

open Syntax

/-- A token whose value building reads: a number, or an operator of arithmetic. -/
inductive Syntax.ArithToken
  | number (t : Token)
  | operator (t : Token)
  deriving DecidableEq, Repr

/-- The arithmetic token a token is, if it is one. -/
def Token.arith? (t : Token) : Option ArithToken :=
  match t.kind with
  | .number => some (.number t)
  | .arithOp => some (.operator t)
  | _ => none

theorem Token.arith?_of_number {t : Token} (h : t.kind = .number) : t.arith? = some (.number t) := by
  simp [Token.arith?, h]

theorem Token.arith?_of_arithOp {t : Token} (h : t.kind = .arithOp) :
    t.arith? = some (.operator t) := by
  simp [Token.arith?, h]

theorem Token.arith?_eq_none {t : Token} (h₁ : t.kind ≠ .number) (h₂ : t.kind ≠ .arithOp) :
    t.arith? = none := by
  unfold Token.arith?
  split <;> simp_all

/-! ## The numbers and operators of a tree -/

namespace Syntax

def Operand.arithTokens : Operand → List ArithToken
  | .number t => [.number t]
  | _ => []

/-- The operators and operands of the steps of arithmetic, in order. -/
def stepsArithTokens (steps : List (Token × Operand)) : List ArithToken :=
  steps.flatMap fun st => .operator st.1 :: st.2.arithTokens

def Scalar.arithTokens : Scalar → List ArithToken
  | .number t => [.number t]
  | .arith first steps => first.arithTokens ++ stepsArithTokens steps
  | _ => []

def Arg.arithTokens : Arg → List ArithToken
  | .value v => v.arithTokens
  | _ => []

@[simp] def Call.arithTokens (c : Call) : List ArithToken := c.args.flatMap Arg.arithTokens

def Items.arithTokens : Items → List ArithToken
  | .values vs => vs.flatMap Scalar.arithTokens
  | .calls cs => cs.flatMap Call.arithTokens

def Rhs.arithTokens : Rhs → List ArithToken
  | .call c => c.arithTokens
  | .list items => items.arithTokens
  | .value v => v.arithTokens

@[simp] def PropertyLine.arithTokens (l : PropertyLine) : List ArithToken := l.rhs.arithTokens

@[simp] def ComponentDecl.arithTokens (c : ComponentDecl) : List ArithToken :=
  c.properties.flatMap PropertyLine.arithTokens

def Setting.arithTokens : Setting → List ArithToken
  | .list items => items.arithTokens
  | .value v => v.arithTokens

/-- The numbers and operators of the settings of an instance, in order. -/
def settingsArithTokens (ss : List (Token × Setting)) : List ArithToken :=
  ss.flatMap fun s => s.2.arithTokens

@[simp] def Instance.arithTokens (i : Instance) : List ArithToken := settingsArithTokens i.settings

@[simp] def VariableDecl.arithTokens (v : VariableDecl) : List ArithToken := v.inst.arithTokens

/-- The numbers and operators of a definition file: its components', then its
variables'. -/
def DefFile.arithTokens (d : DefFile) : List ArithToken :=
  d.components.flatMap ComponentDecl.arithTokens ++ d.vars.flatMap VariableDecl.arithTokens

def Usage.arithTokens : Usage → List ArithToken
  | .name _ => []
  | .inst i => i.arithTokens

def ViewFile.arithTokens (v : ViewFile) : List ArithToken := v.usages.flatMap Usage.arithTokens

/-! ## Steps of the parser -/

namespace Cursor

/-- From `c` to `c'` errors were only added. -/
def Grows (c c' : Cursor) : Prop := c.errors <+: c'.errors

/-- From `c` to `c'` the parser moved past tokens whose numbers and operators
are `xs`. -/
def Reads (c c' : Cursor) (xs : List ArithToken) : Prop :=
  ∃ pre, c.rest = pre ++ c'.rest ∧ pre.filterMap Token.arith? = xs

/-- A step from `c` to `c'` that reads `xs` unless it records an error. -/
def Step (c c' : Cursor) (xs : List ArithToken) : Prop :=
  Grows c c' ∧ (c'.errors = c.errors → Reads c c' xs)

/-- A step from `c` to `c'` that records an error. -/
def Fails (c c' : Cursor) : Prop := Grows c c' ∧ c'.errors ≠ c.errors

/-- A step from `c` to `c'` that moves on unless it records an error. -/
def Shrinks (c c' : Cursor) : Prop := c'.errors = c.errors → c'.rest.length < c.rest.length

variable {c c' c₁ c₂ : Cursor} {xs ys : List ArithToken}

theorem Grows.refl (c : Cursor) : Grows c c := List.prefix_refl _

theorem Grows.of_errors (h : c'.errors = c.errors) : Grows c c' := by
  unfold Grows
  exact h ▸ List.prefix_refl _

theorem Grows.trans (h₁ : Grows c c₁) (h₂ : Grows c₁ c₂) : Grows c c₂ := List.IsPrefix.trans h₁ h₂

/-- Errors that end where they started were not added to in between. -/
theorem Grows.eq_of_eq (h₁ : Grows c c₁) (h₂ : Grows c₁ c₂) (h : c₂.errors = c.errors) :
    c₁.errors = c.errors := by
  have hl₁ := h₁.length_le
  have hl₂ := h₂.length_le
  rw [h] at hl₂
  exact (h₁.eq_of_length (by omega)).symm

theorem Reads.trans (h₁ : Reads c c₁ xs) (h₂ : Reads c₁ c₂ ys) : Reads c c₂ (xs ++ ys) := by
  obtain ⟨pre₁, hr₁, hx⟩ := h₁
  obtain ⟨pre₂, hr₂, hy⟩ := h₂
  exact ⟨pre₁ ++ pre₂, by rw [hr₁, hr₂, List.append_assoc], by rw [List.filterMap_append, hx, hy]⟩

theorem Reads.length_le (h : Reads c c' xs) : c'.rest.length ≤ c.rest.length := by
  obtain ⟨pre, hr, -⟩ := h
  rw [hr, List.length_append]
  omega

theorem Step.refl (c : Cursor) : Step c c [] := ⟨.refl c, fun _ => ⟨[], rfl, rfl⟩⟩

theorem Step.trans (h₁ : Step c c₁ xs) (h₂ : Step c₁ c₂ ys) : Step c c₂ (xs ++ ys) := by
  refine ⟨h₁.1.trans h₂.1, fun h => ?_⟩
  have he₁ := Grows.eq_of_eq h₁.1 h₂.1 h
  exact (h₁.2 he₁).trans (h₂.2 (h.trans he₁.symm))

theorem Fails.grow (h : Fails c c₁) (hg : Grows c₁ c') : Fails c c' :=
  ⟨h.1.trans hg, fun he => h.2 (Grows.eq_of_eq h.1 hg he)⟩

/-- An error recorded after a step is an error of the whole. -/
theorem Fails.after (hs : Step c c₁ xs) (h : Fails c₁ c') : Fails c c' := by
  refine ⟨hs.1.trans h.1, fun he => h.2 ?_⟩
  exact he.trans (Grows.eq_of_eq hs.1 h.1 he).symm

theorem Shrinks.of_fails (h : Fails c c') : Shrinks c c' := fun he => absurd he h.2

/-- A clean step after one that moved on still moved on. -/
theorem Shrinks.step (h : Shrinks c c₁) (hg : Grows c c₁) (hs : Step c₁ c' xs) : Shrinks c c' := by
  intro he
  have he₁ := Grows.eq_of_eq hg hs.1 he
  exact lt_of_le_of_lt (hs.2 (he.trans he₁.symm)).length_le (h he₁)

/-! ### The cursor's moves -/

@[simp] theorem skip_errors (c : Cursor) : c.skip.errors = c.errors := by
  unfold skip
  split <;> rfl

/-- Moving past the next token reads it. -/
theorem step_skip (c : Cursor) : Step c c.skip c.peek.arith?.toList := by
  refine ⟨.of_errors (skip_errors c), fun _ => ?_⟩
  unfold skip
  split
  · -- at the end of input nothing is passed, and the `eof` found there is no number
    rename_i hend
    have hk : c.peek.kind = .eof := peek_of_check hend
    exact ⟨[], rfl, by simp [Token.arith?, hk]⟩
  · rename_i hend
    obtain ⟨_ | ⟨t, r⟩, e, l⟩ := c
    · exact absurd rfl hend
    · exact ⟨[t], rfl, by cases h : t.arith? <;> simp [peek, peekAt, h]⟩

theorem step_skip_kind {k : TokenKind} (hk : c.peek.kind = k) (h₁ : k ≠ .number)
    (h₂ : k ≠ .arithOp) : Step c c.skip [] := by
  simpa [Token.arith?_eq_none (hk ▸ h₁) (hk ▸ h₂)] using step_skip c

theorem step_skip_number (hk : c.peek.kind = .number) : Step c c.skip [.number c.peek] := by
  simpa [Token.arith?_of_number hk] using step_skip c

theorem step_skip_arithOp (hk : c.peek.kind = .arithOp) : Step c c.skip [.operator c.peek] := by
  simpa [Token.arith?_of_arithOp hk] using step_skip c

/-- Moving past a token that is not the end of input leaves one token fewer. -/
theorem skip_length (h : c.peek.kind ≠ .eof) : c.skip.rest.length < c.rest.length := by
  obtain ⟨_ | ⟨t, r⟩, e, l⟩ := c
  · exact absurd rfl h
  · simp_all [skip, atEnd, check, peek, peekAt]

theorem accept_eq_some {k : TokenKind} (h : c.accept k = some c') : c' = c.skip ∧ c.peek.kind = k := by
  unfold accept at h
  split at h
  · rename_i hk
    cases h
    exact ⟨rfl, peek_of_check hk⟩
  · cases h

theorem step_accept {k : TokenKind} (h : c.accept k = some c') (h₁ : k ≠ .number)
    (h₂ : k ≠ .arithOp) : Step c c' [] := by
  obtain ⟨rfl, hk⟩ := accept_eq_some h
  exact step_skip_kind hk h₁ h₂

theorem report_fails (c : Cursor) (t : Token) (p : ParseProblem) : Fails c (c.report t p) := by
  refine ⟨List.prefix_append _ _, fun h => ?_⟩
  have := congrArg List.length h
  simp [report] at this

/-- Blank lines hold no number. -/
theorem step_skipNewlines (c : Cursor) : Step c c.skipNewlines [] := by
  refine ⟨.of_errors rfl, fun _ => ⟨c.rest.takeWhile (·.kind == .newline), ?_, ?_⟩⟩
  · exact (List.takeWhile_append_dropWhile).symm
  · rw [List.filterMap_eq_nil_iff]
    intro t ht
    have hnl : t.kind = .newline := by simpa using List.mem_takeWhile_imp ht
    simp [Token.arith?, hnl]

theorem skipLine_grows (c : Cursor) : Grows c c.skipLine := by
  refine .of_errors ?_
  unfold skipLine accept
  dsimp only
  split <;> simp

theorem endLine_true (h : c.endLine = (true, c')) : Step c c' [] := by
  unfold endLine at h
  split at h
  · cases h
    exact .refl c
  · revert h
    cases ha : c.accept .newline with
    | some c₁ =>
      intro h
      cases h
      exact step_accept ha (by decide) (by decide)
    | none =>
      intro h
      cases h

theorem endLine_false (h : c.endLine = (false, c')) : Fails c c' := by
  unfold endLine at h
  split at h
  · cases h
  · revert h
    cases ha : c.accept .newline with
    | some c₁ =>
      intro h
      cases h
    | none =>
      intro h
      cases h
      exact (report_fails _ _ _).grow (skipLine_grows _)

/-! ### What a parser returns -/

section Keeps

variable {β γ : Type} {f : β → List ArithToken} {g : γ → List ArithToken} {base : List ArithToken}

/-- A parser's result from `c`: errors were only added, and if none was, a tree
`x` was read, `f x` being `base` followed by the numbers and operators of the
tokens moved past. -/
def Keeps (f : β → List ArithToken) (base : List ArithToken) (c : Cursor)
    (r : Option β × Cursor) : Prop :=
  Grows c r.2 ∧ (r.2.errors = c.errors → ∃ x xs, r.1 = some x ∧ Reads c r.2 xs ∧ f x = base ++ xs)

theorem Keeps.of_eq {r r' : Option β × Cursor} (h : Keeps f base c r) (e : r = r') :
    Keeps f base c r' :=
  e ▸ h

theorem Keeps.fail {o : Option β} (h : Fails c c') : Keeps f base c (o, c') :=
  ⟨h.1, fun he => absurd he h.2⟩

theorem Keeps.read {x : β} (hs : Step c c' xs) (hx : f x = base ++ xs) : Keeps f base c (some x, c') :=
  ⟨hs.1, fun h => ⟨x, xs, rfl, hs.2 h, hx⟩⟩

/-- A result with no tree recorded an error. -/
theorem Keeps.fails (h : Keeps f base c (none, c')) : Fails c c' := by
  refine ⟨h.1, fun he => ?_⟩
  obtain ⟨x, xs, hx, -⟩ := h.2 he
  cases hx

/-- A tree read from nothing is a step that reads the tree's own tokens. -/
theorem Keeps.step {x : β} (h : Keeps f [] c (some x, c')) : Step c c' (f x) := by
  refine ⟨h.1, fun he => ?_⟩
  obtain ⟨y, ys, hy, hr, hf⟩ := h.2 he
  cases hy
  simpa [hf] using hr

/-- A result read after a step reads the step's tokens first. -/
theorem Keeps.after {r : Option β × Cursor} (hs : Step c c₁ xs) (h : Keeps f (base ++ xs) c₁ r) :
    Keeps f base c r := by
  refine ⟨hs.1.trans h.1, fun he => ?_⟩
  have he₁ := Grows.eq_of_eq hs.1 h.1 he
  obtain ⟨x, ys, hx, hr, hf⟩ := h.2 (he.trans he₁.symm)
  exact ⟨x, xs ++ ys, hx, (hs.2 he₁).trans hr, by rw [hf, List.append_assoc]⟩

theorem Keeps.after_nil {r : Option β × Cursor} (hs : Step c c₁ []) (h : Keeps f base c₁ r) :
    Keeps f base c r :=
  .after hs (by simpa using h)

/-- A result read after a tree `x` goes on from the tokens of `x`. -/
theorem Keeps.cont {x : β} {r : Option γ × Cursor} (h : Keeps f base c (some x, c₁))
    (hnext : Keeps g (f x) c₁ r) : Keeps g base c r := by
  refine ⟨h.1.trans hnext.1, fun he => ?_⟩
  have he₁ := Grows.eq_of_eq h.1 hnext.1 he
  obtain ⟨x', xs, hx, hr, hf⟩ := h.2 he₁
  cases hx
  obtain ⟨y, ys, hy, hr', hg⟩ := hnext.2 (he.trans he₁.symm)
  exact ⟨y, xs ++ ys, hy, hr.trans hr', by rw [hg, hf, List.append_assoc]⟩

/-- A parser that starts by moving past a token other than the end of input
moves on unless it records an error. -/
theorem Keeps.fail_shrinks {o : Option β} (h : Fails c c') : Keeps f base c (o, c') ∧ Shrinks c c' :=
  ⟨.fail h, .of_fails h⟩

theorem Keeps.shrinks {r : Option β × Cursor} (h : Keeps f base c.skip r) (hx : c.peek.kind ≠ .eof) :
    Shrinks c r.2 := by
  intro he
  obtain ⟨x, xs, -, hr, -⟩ := h.2 (by rw [he, skip_errors])
  exact lt_of_le_of_lt hr.length_le (skip_length hx)

end Keeps

end Cursor

end Syntax

/-! ## Reading values -/

open Cursor

theorem parseOperand_keeps (c : Cursor) : Keeps Operand.arithTokens [] c (parseOperand c) := by
  unfold parseOperand
  dsimp only
  split
  · rename_i hk
    exact .read (step_skip_number hk) rfl
  · rename_i hk
    have h₁ := step_skip_kind hk (by decide) (by decide)
    cases ha : c.skip.accept .dot with
    | none => exact .read h₁ rfl
    | some c₂ =>
      have h₂ := h₁.trans (step_accept ha (by decide) (by decide))
      dsimp only
      split
      · rename_i hprop
        exact .read (h₂.trans (step_skip_kind (peek_of_check hprop) (by decide) (by decide))) rfl
      · exact .fail ((report_fails _ _ _).after h₂)
  · exact .fail (report_fails _ _ _)

/-- The steps of arithmetic after `acc`: each an operator and then an operand. -/
theorem parseSteps_keeps (c : Cursor) (acc : List (Token × Syntax.Operand)) :
    Keeps stepsArithTokens (stepsArithTokens acc) c (parseSteps c acc) := by
  rw [parseSteps]
  split
  · rename_i hop
    have h₁ := step_skip_arithOp (peek_of_check hop)
    dsimp only [Cursor.advance]
    have ho := parseOperand_keeps c.skip
    rcases hpo : parseOperand c.skip with ⟨_ | t, c₂⟩
    · rw [hpo] at ho
      exact .fail (ho.fails.after h₁)
    rw [hpo] at ho
    have h₂ := h₁.trans ho.step
    have hacc : stepsArithTokens (acc ++ [(c.peek, t)]) =
        stepsArithTokens acc ++ ([.operator c.peek] ++ t.arithTokens) := by
      simp [stepsArithTokens]
    dsimp only
    split
    · have ih := parseSteps_keeps c₂ (acc ++ [(c.peek, t)])
      rw [hacc] at ih
      exact .after h₂ ih
    · exact .read h₂ hacc
  · exact .read (.refl c) (List.append_nil _).symm
termination_by c.rest.length

theorem parseScalar_keeps (c : Cursor) : Keeps Scalar.arithTokens [] c (parseScalar c) := by
  unfold parseScalar
  dsimp only
  split
  case h_1 hk => exact .read (step_skip_kind hk (by decide) (by decide)) rfl
  case h_2 hk => exact .read (step_skip_kind hk (by decide) (by decide)) rfl
  case h_5 => exact .fail (report_fails _ _ _)
  -- a number or a name is an operand, then the steps of arithmetic if an operator follows
  case h_3 | h_4 =>
    have ho := parseOperand_keeps c
    rcases hpo : parseOperand c with ⟨_ | first, c₁⟩
    · rw [hpo] at ho
      exact .fail ho.fails
    rw [hpo] at ho
    dsimp only
    split
    · have hs := parseSteps_keeps c₁ []
      rcases hps : parseSteps c₁ [] with ⟨_ | steps, c₂⟩
      · rw [hps] at hs
        exact .fail (hs.fails.after ho.step)
      · rw [hps] at hs
        exact .read (ho.step.trans hs.step) rfl
    · cases first with
      | number t => exact .read ho.step rfl
      | name t => exact .read ho.step rfl
      | member o p => exact .fail ((report_fails _ _ _).after ho.step)

/-- An argument: `X.y` or `V.view`, which hold no number, or a value. -/
theorem parseArg_keeps (c : Cursor) : Keeps Arg.arithTokens [] c (parseArg c) := by
  unfold parseArg
  dsimp only [Cursor.advance]
  split
  · rename_i hm
    simp only [Bool.and_eq_true, Bool.not_eq_true', check, checkAt, beq_iff_eq] at hm
    obtain ⟨⟨⟨hid, hdot⟩, hprop⟩, -⟩ := hm
    have h₀ : c.skip.peek = c.peekAt 1 := peekAt_skip (by rw [hid]; decide) 0
    have h₂ : c.skip.skip.peek = c.peekAt 2 := by
      rw [peek, peekAt_skip (by rw [h₀, hdot]; decide), peekAt_skip (by rw [hid]; decide)]
    have hdot' : c.skip.peek.kind = .dot := by rw [h₀, hdot]
    have hprop' : c.skip.skip.peek.kind = .identifier := by rw [h₂, hprop]
    have hs : Step c c.skip.skip.skip [] :=
      ((step_skip_kind hid (by decide) (by decide)).trans
        (step_skip_kind hdot' (by decide) (by decide))).trans
        (step_skip_kind hprop' (by decide) (by decide))
    split <;> exact .read hs rfl
  · have hs := parseScalar_keeps c
    rcases hps : parseScalar c with ⟨_ | v, c₁⟩
    · rw [hps] at hs
      exact .fail hs.fails
    · rw [hps] at hs
      exact .read hs.step rfl

/-- The arguments of a call after `acc`, through the closing `)`. -/
theorem parseArgs_keeps (fn : Token) (c : Cursor) (acc : List Syntax.Arg) :
    Keeps (fun as => as.flatMap Arg.arithTokens) (acc.flatMap Arg.arithTokens) c
      (parseArgs fn c acc) := by
  rw [parseArgs]
  have ha := parseArg_keeps c
  rcases hpa : parseArg c with ⟨_ | a, c₁⟩
  · rw [hpa] at ha
    exact .fail ha.fails
  rw [hpa] at ha
  have hacc : (acc ++ [a]).flatMap Arg.arithTokens = acc.flatMap Arg.arithTokens ++ a.arithTokens := by
    simp
  dsimp only
  cases hcomma : c₁.accept .comma with
  | some c₂ =>
    have h₂ : Step c c₂ a.arithTokens := by
      simpa using ha.step.trans (step_accept hcomma (by decide) (by decide))
    dsimp only
    split
    · have ih := parseArgs_keeps fn c₂ (acc ++ [a])
      rw [hacc] at ih
      exact .after h₂ ih
    · exact .read h₂ hacc
  | none =>
    dsimp only
    cases hclose : c₁.accept .rparen with
    | some c₂ =>
      exact .read (by simpa using ha.step.trans (step_accept hclose (by decide) (by decide))) hacc
    | none => exact .fail ((report_fails _ _ _).after ha.step)
termination_by c.rest.length

/-- A call, read where `name(` stands. -/
theorem parseCall_keeps {c : Cursor} (h : c.atCall = true) :
    Keeps Call.arithTokens [] c (parseCall c) := by
  simp only [atCall, Bool.and_eq_true, check, checkAt, beq_iff_eq] at h
  obtain ⟨hid, hparen⟩ := h
  have hparen' : c.skip.peek.kind = .lparen := by
    rw [peek, peekAt_skip (by rw [hid]; decide)]
    exact hparen
  have hs : Step c c.skip.skip [] :=
    (step_skip_kind hid (by decide) (by decide)).trans (step_skip_kind hparen' (by decide) (by decide))
  unfold parseCall
  dsimp only [Cursor.advance]
  cases hclose : c.skip.skip.accept .rparen with
  | some c₃ => exact .read (hs.trans (step_accept hclose (by decide) (by decide))) rfl
  | none =>
    dsimp only
    have ha := parseArgs_keeps c.peek c.skip.skip []
    rcases hpa : parseArgs c.peek c.skip.skip [] with ⟨_ | args, c₃⟩
    · rw [hpa] at ha
      exact .fail (ha.fails.after hs)
    · rw [hpa] at ha
      exact .read (hs.trans ha.step) rfl

/-- The numbers and operators of the values and calls of a list read so far. -/
def itemsArithTokens (r : List Syntax.Scalar × List Syntax.Call) : List ArithToken :=
  r.1.flatMap Scalar.arithTokens ++ r.2.flatMap Call.arithTokens

theorem itemRound_keeps (c : Cursor) (vs : List Syntax.Scalar) (fs : List Syntax.Call) :
    Keeps itemsArithTokens (itemsArithTokens (vs, fs)) c (itemRound c vs fs) := by
  unfold itemRound
  split
  · rename_i hcall
    split
    · have hf := parseCall_keeps hcall
      rcases hpc : parseCall c with ⟨_ | f, c₁⟩
      · rw [hpc] at hf
        exact .fail hf.fails
      · rw [hpc] at hf
        exact .read hf.step (by simp [itemsArithTokens])
    · exact .fail (report_fails _ _ _)
  · split
    · rename_i hf
      have hv := parseScalar_keeps c
      rcases hps : parseScalar c with ⟨_ | v, c₁⟩
      · rw [hps] at hv
        exact .fail hv.fails
      · rw [hps] at hv
        exact .read hv.step (by simp [itemsArithTokens, List.isEmpty_iff.1 hf])
    · exact .fail (report_fails _ _ _)

/-- A round of a list reads a value into a list without calls, or a call into a
list without values. -/
theorem itemRound_homogeneous {c c' : Cursor} {vs : List Syntax.Scalar} {fs : List Syntax.Call}
    {r : List Syntax.Scalar × List Syntax.Call} (h : itemRound c vs fs = (some r, c')) :
    r.1 = [] ∨ r.2 = [] := by
  unfold itemRound at h
  split at h
  · split at h
    · rename_i hv
      split at h
      · cases h
        exact .inl (List.isEmpty_iff.1 hv)
      · cases h
    · cases h
  · split at h
    · rename_i hf
      split at h
      · cases h
        exact .inr (List.isEmpty_iff.1 hf)
      · cases h
    · cases h

theorem Items.arithTokens_of_homogeneous {r : List Syntax.Scalar × List Syntax.Call}
    (h : r.1 = [] ∨ r.2 = []) :
    Items.arithTokens (if r.2.isEmpty then .values r.1 else .calls r.2) = itemsArithTokens r := by
  split
  · rename_i hf
    simp [Items.arithTokens, itemsArithTokens, List.isEmpty_iff.1 hf]
  · rename_i hf
    simp [Items.arithTokens, itemsArithTokens, h.resolve_right (by simpa using hf)]

/-- The items of a list, read round by round until its closing bracket. -/
theorem parseItems_keeps (c : Cursor) (vs : List Syntax.Scalar) (fs : List Syntax.Call) :
    Keeps Items.arithTokens (itemsArithTokens (vs, fs)) c (parseItems c vs fs) := by
  rw [parseItems]
  dsimp only
  have hround := itemRound_keeps c vs fs
  split
  · rename_i c₁ heq
    exact .fail (hround.of_eq heq).fails
  · rename_i vs' fs' c₁ heq
    have hr := hround.of_eq heq
    have hitems := Items.arithTokens_of_homogeneous (itemRound_homogeneous heq)
    cases hcomma : c₁.accept .comma with
    | some c₂ =>
      have hs₂ := step_accept hcomma (by decide) (by decide)
      dsimp only
      cases hclose : c₂.accept .rbracket with
      | some c₃ =>
        exact hr.cont (.read (hs₂.trans (step_accept hclose (by decide) (by decide))) (by simpa using hitems))
      | none =>
        dsimp only
        split
        · exact hr.cont (.after_nil hs₂ (parseItems_keeps c₂ vs' fs'))
        · exact hr.cont (.read hs₂ (by simpa using hitems))
    | none =>
      dsimp only
      cases hclose : c₁.accept .rbracket with
      | some c₂ => exact hr.cont (.read (step_accept hclose (by decide) (by decide)) (by simpa using hitems))
      | none => exact hr.cont (.fail (report_fails _ _ _))
termination_by c.rest.length

/-- A list, read where `[` stands. -/
theorem parseList_keeps {c : Cursor} (hk : c.peek.kind = .lbracket) :
    Keeps Items.arithTokens [] c (parseList c) := by
  have hs := step_skip_kind hk (by decide) (by decide)
  unfold parseList
  dsimp only [Cursor.advance]
  split
  · exact .fail (((report_fails _ _ _).grow (.of_errors (skip_errors _))).after hs)
  · exact .after_nil hs (parseItems_keeps c.skip [] [])

theorem parseRhs_keeps (c : Cursor) : Keeps Rhs.arithTokens [] c (parseRhs c) := by
  unfold parseRhs
  split
  · rename_i hl
    have hi := parseList_keeps (peek_of_check hl)
    rcases hp : parseList c with ⟨_ | items, c₁⟩
    · rw [hp] at hi
      exact .fail hi.fails
    · rw [hp] at hi
      exact .read hi.step rfl
  split
  · rename_i hcall
    have hf := parseCall_keeps hcall
    rcases hp : parseCall c with ⟨_ | f, c₁⟩
    · rw [hp] at hf
      exact .fail hf.fails
    · rw [hp] at hf
      exact .read hf.step rfl
  · have hv := parseScalar_keeps c
    rcases hp : parseScalar c with ⟨_ | v, c₁⟩
    · rw [hp] at hv
      exact .fail hv.fails
    · rw [hp] at hv
      exact .read hv.step rfl

/-! ## Reading declarations -/

/-- A cursor at `name =` moves past both, reading no number. -/
theorem step_assignment {c : Cursor} (h : c.atAssignment = true) : Step c c.skip.skip [] := by
  simp only [atAssignment, Bool.and_eq_true, check, checkAt, beq_iff_eq] at h
  obtain ⟨hid, heq⟩ := h
  have heq' : c.skip.peek.kind = .equals := by
    rw [peek, peekAt_skip (by rw [hid]; decide)]
    exact heq
  exact (step_skip_kind hid (by decide) (by decide)).trans (step_skip_kind heq' (by decide) (by decide))

/-- A property line `name = rhs`, read where `name =` stands. -/
theorem parsePropertyLine_keeps {c : Cursor} (h : c.atAssignment = true) :
    Keeps PropertyLine.arithTokens [] c (parsePropertyLine c) := by
  have hs := step_assignment h
  unfold parsePropertyLine
  dsimp only [Cursor.advance]
  have hr := parseRhs_keeps c.skip.skip
  rcases hp : parseRhs c.skip.skip with ⟨_ | rhs, c₂⟩
  · rw [hp] at hr
    exact .fail ((hr.fails.grow (skipLine_grows _)).after hs)
  rw [hp] at hr
  dsimp only
  rcases hend : c₂.endLine with ⟨_ | _, c₃⟩
  · exact .fail ((endLine_false hend).after (hs.trans hr.step))
  · exact .read ((hs.trans hr.step).trans (endLine_true hend)) (by simp)

/-- The property lines of a body after `acc`. -/
theorem parseBody_keeps (c : Cursor) (acc : List PropertyLine) :
    Keeps (fun ls => ls.flatMap PropertyLine.arithTokens) (acc.flatMap PropertyLine.arithTokens) c
      (some (parseBody c acc).1, (parseBody c acc).2) := by
  rw [parseBody]
  dsimp only
  have hs := step_skipNewlines c
  split
  · rename_i hassign
    have hl := parsePropertyLine_keeps hassign
    rcases hp : parsePropertyLine c.skipNewlines with ⟨_ | line, c₁⟩
    · rw [hp] at hl
      -- a line that failed is an error, whatever follows
      dsimp only
      split
      · exact .fail ((hl.fails.grow (parseBody_keeps c₁ _).1).after hs)
      · exact .fail (hl.fails.after hs)
    · rw [hp] at hl
      have hacc : (acc ++ (some line).toList).flatMap PropertyLine.arithTokens =
          acc.flatMap PropertyLine.arithTokens ++ line.arithTokens := by
        simp
      dsimp only
      split
      · have ih := parseBody_keeps c₁ (acc ++ (some line).toList)
        rw [hacc] at ih
        exact .after (hs.trans hl.step) ih
      · exact .read (hs.trans hl.step) hacc
  · exact .read hs (by simp)
termination_by c.rest.length

/-- A component, read where a base keyword stands; it moves on unless it
records an error. -/
theorem parseComponent_keeps {c : Cursor} (hk : c.peek.kind = .baseComponent) :
    Keeps ComponentDecl.arithTokens [] c (parseComponent c) ∧ Shrinks c (parseComponent c).2 := by
  have hkeep : Keeps ComponentDecl.arithTokens [] c.skip (parseComponent c) := by
    unfold parseComponent
    dsimp only [Cursor.advance]
    split
    · rename_i hid
      have hs := step_skip_kind (peek_of_check hid) (by decide) (by decide)
      cases hcolon : c.skip.skip.accept .colon with
      | none => exact .fail (((report_fails _ _ _).grow (skipLine_grows _)).after hs)
      | some c₃ =>
        have hs₃ := hs.trans (step_accept hcolon (by decide) (by decide))
        dsimp only
        rcases hend : c₃.endLine with ⟨_ | _, c₄⟩
        · exact .fail ((endLine_false hend).after hs₃)
        dsimp only
        have hb := parseBody_keeps c₄ []
        rcases hpb : parseBody c₄ [] with ⟨props, c₅⟩
        rw [hpb] at hb
        exact .read ((hs₃.trans (endLine_true hend)).trans hb.step) (by simp)
    · exact .fail ((report_fails _ _ _).grow (skipLine_grows _))
  exact ⟨.after_nil (step_skip_kind hk (by decide) (by decide)) hkeep, hkeep.shrinks (by rw [hk]; decide)⟩

/-- A setting `name = list` or `name = value`, read where `name =` stands. -/
theorem parseSetting_keeps {c : Cursor} (h : c.atAssignment = true) :
    Keeps (fun s => s.2.arithTokens) [] c (parseSetting c) := by
  have hs := step_assignment h
  unfold parseSetting
  dsimp only [Cursor.advance]
  split
  · rename_i hl
    have hi := parseList_keeps (peek_of_check hl)
    rcases hp : parseList c.skip.skip with ⟨_ | items, c₃⟩
    · rw [hp] at hi
      exact .fail (hi.fails.after hs)
    · rw [hp] at hi
      exact .read (hs.trans hi.step) rfl
  · have hv := parseScalar_keeps c.skip.skip
    rcases hp : parseScalar c.skip.skip with ⟨_ | v, c₃⟩
    · rw [hp] at hv
      exact .fail (hv.fails.after hs)
    · rw [hp] at hv
      exact .read (hs.trans hv.step) rfl

/-- The settings after `WITH`, after `acc`. -/
theorem parseSettings_keeps (c : Cursor) (acc : List (Token × Setting)) :
    Keeps settingsArithTokens (settingsArithTokens acc) c (parseSettings c acc) := by
  rw [parseSettings]
  split
  · rename_i hassign
    have hs := parseSetting_keeps hassign
    rcases hp : parseSetting c with ⟨_ | s, c₁⟩
    · rw [hp] at hs
      exact .fail hs.fails
    rw [hp] at hs
    have hacc : settingsArithTokens (acc ++ [s]) = settingsArithTokens acc ++ s.2.arithTokens := by
      simp [settingsArithTokens]
    dsimp only
    cases hcomma : c₁.accept .comma with
    | none => exact .read hs.step hacc
    | some c₂ =>
      have hs₂ : Step c c₂ s.2.arithTokens := by
        simpa using hs.step.trans (step_accept hcomma (by decide) (by decide))
      dsimp only
      split
      · have ih := parseSettings_keeps c₂ (acc ++ [s])
        rw [hacc] at ih
        exact .after hs₂ ih
      · exact .read hs₂ hacc
  · exact .fail (report_fails _ _ _)
termination_by c.rest.length

/-- An instance, read where its name stands; it moves on unless it records an
error. -/
theorem parseInstance_keeps {c : Cursor} (hk : c.peek.kind = .identifier) :
    Keeps Instance.arithTokens [] c (parseInstance c) ∧ Shrinks c (parseInstance c).2 := by
  have hkeep : Keeps Instance.arithTokens [] c.skip (parseInstance c) := by
    unfold parseInstance
    dsimp only [Cursor.advance]
    cases hwith : c.skip.accept .withKw with
    | none => exact .read (.refl _) rfl
    | some c₂ =>
      have hs := step_accept hwith (by decide) (by decide)
      dsimp only
      have hss := parseSettings_keeps c₂ []
      rcases hp : parseSettings c₂ [] with ⟨_ | ss, c₃⟩
      · rw [hp] at hss
        exact .fail (hss.fails.after hs)
      · rw [hp] at hss
        exact .read (hs.trans hss.step) rfl
  exact ⟨.after_nil (step_skip_kind hk (by decide) (by decide)) hkeep, hkeep.shrinks (by rw [hk]; decide)⟩

/-- A variable `instance AS name`, read where a name stands; it moves on unless
it records an error. -/
theorem parseVariable_keeps {c : Cursor} (hk : c.peek.kind = .identifier) :
    Keeps VariableDecl.arithTokens [] c (parseVariable c) ∧ Shrinks c (parseVariable c).2 := by
  obtain ⟨hi, hshrink⟩ := parseInstance_keeps hk
  unfold parseVariable
  rcases hp : parseInstance c with ⟨_ | inst, c₁⟩
  · rw [hp] at hi
    exact Keeps.fail_shrinks (hi.fails.grow (skipLine_grows _))
  rw [hp] at hi hshrink
  dsimp only
  cases has : c₁.accept .asKw with
  | none => exact Keeps.fail_shrinks (((report_fails _ _ _).grow (skipLine_grows _)).after hi.step)
  | some c₂ =>
    dsimp only
    have hs₂ := step_accept has (by decide) (by decide)
    split
    · rename_i hid
      dsimp only [Cursor.advance]
      have hs₃ := hs₂.trans (step_skip_kind (peek_of_check hid) (by decide) (by decide))
      rcases hend : c₂.skip.endLine with ⟨_ | _, c₄⟩
      · exact Keeps.fail_shrinks ((endLine_false hend).after (hi.step.trans hs₃))
      · have hs₄ := hs₃.trans (endLine_true hend)
        exact ⟨.read (hi.step.trans hs₄) (by simp), hshrink.step hi.1 hs₄⟩
    · exact Keeps.fail_shrinks (((report_fails _ _ _).grow (skipLine_grows _)).after (hi.step.trans hs₂))

/-! ## Reading files -/

/-- A file is read round by round, blank lines skipped after each, to the end of
input or until a round moves on no further. When each round keeps its tokens and
moves on unless it records an error, so does the whole read, and a clean read
ends at the end of input. -/
theorem keeps_rounds {α : Type} (f : α → List ArithToken) (round loop : Cursor → α → α × Cursor)
    (hloop : ∀ c acc, loop c acc =
      if c.atEnd then (acc, c)
      else if (round c acc).2.skipNewlines.rest.length < c.rest.length then
        loop (round c acc).2.skipNewlines (round c acc).1
      else ((round c acc).1, (round c acc).2.skipNewlines))
    (hround : ∀ c acc, Keeps f (f acc) c (some (round c acc).1, (round c acc).2) ∧
      Shrinks c (round c acc).2)
    (c : Cursor) (acc : α) :
    Keeps f (f acc) c (some (loop c acc).1, (loop c acc).2) ∧
      ((loop c acc).2.errors = c.errors → (loop c acc).2.atEnd = true) := by
  rw [hloop]
  split
  · rename_i hend
    exact ⟨.read (.refl c) (List.append_nil _).symm, fun _ => hend⟩
  obtain ⟨hr, hshrink⟩ := hround c acc
  have hs := step_skipNewlines (round c acc).2
  split
  · obtain ⟨ih, hend⟩ := keeps_rounds f round loop hloop hround (round c acc).2.skipNewlines (round c acc).1
    refine ⟨hr.cont (.after_nil hs ih), fun he => hend ?_⟩
    exact he.trans (Grows.eq_of_eq (hr.1.trans hs.1) ih.1 he).symm
  · rename_i hlen
    refine ⟨hr.cont (.read hs (List.append_nil _).symm), fun he => absurd ?_ hlen⟩
    -- a clean round moves on, so a clean read does not stop here
    exact lt_of_le_of_lt (hs.2 rfl).length_le (hshrink he)
termination_by c.rest.length

theorem declRound_keeps (c : Cursor) (acc : DefFile) :
    Keeps DefFile.arithTokens acc.arithTokens c (some (declRound c acc).1, (declRound c acc).2) ∧
      Shrinks c (declRound c acc).2 := by
  unfold declRound
  split
  · rename_i hk
    dsimp only
    by_cases hv : acc.vars.isEmpty
    · rw [if_pos hv]
      obtain ⟨hcomp, hshrink⟩ := parseComponent_keeps hk
      rcases hp : parseComponent c with ⟨_ | comp, c₁⟩
      · rw [hp] at hcomp
        exact Keeps.fail_shrinks hcomp.fails
      · rw [hp] at hcomp hshrink
        exact ⟨.read hcomp.step (by simp [DefFile.arithTokens, List.isEmpty_iff.1 hv]), hshrink⟩
    · -- a component after a variable is an error, whatever is read next
      rw [if_neg hv]
      have hk' : (c.report c.peek .componentAfterVariable).peek.kind = .baseComponent := hk
      have hgrow := (parseComponent_keeps hk').1.1
      rcases hp : parseComponent (c.report c.peek .componentAfterVariable) with ⟨comp?, c₁⟩
      rw [hp] at hgrow
      exact Keeps.fail_shrinks ((report_fails _ _ _).grow hgrow)
  · rename_i hk
    obtain ⟨hvar, hshrink⟩ := parseVariable_keeps hk
    rcases hp : parseVariable c with ⟨_ | var, c₁⟩
    · rw [hp] at hvar
      exact Keeps.fail_shrinks hvar.fails
    · rw [hp] at hvar hshrink
      exact ⟨.read hvar.step (by simp [DefFile.arithTokens]), hshrink⟩
  · exact Keeps.fail_shrinks ((report_fails _ _ _).grow (skipLine_grows _))

/-- The declarations of a definition file after `acc`, read round by round; a
clean read ends at the end of input. -/
theorem parseDecls_keeps (c : Cursor) (acc : DefFile) :
    Keeps DefFile.arithTokens acc.arithTokens c (some (parseDecls c acc).1, (parseDecls c acc).2) ∧
      ((parseDecls c acc).2.errors = c.errors → (parseDecls c acc).2.atEnd = true) :=
  keeps_rounds DefFile.arithTokens declRound parseDecls (fun c acc => by rw [parseDecls_eq])
    declRound_keeps c acc

theorem usageRound_keeps (c : Cursor) (acc : List Syntax.Usage) :
    Keeps (fun us => us.flatMap Usage.arithTokens) (acc.flatMap Usage.arithTokens) c
      (some (usageRound c acc).1, (usageRound c acc).2) ∧ Shrinks c (usageRound c acc).2 := by
  unfold usageRound
  split
  · exact Keeps.fail_shrinks ((report_fails _ _ _).grow (skipLine_grows _))
  rename_i hid
  have hk : c.peek.kind = .identifier := peek_of_check (by simpa using hid)
  split
  · obtain ⟨hi, hshrink⟩ := parseInstance_keeps hk
    rcases hp : parseInstance c with ⟨_ | inst, c₁⟩
    · rw [hp] at hi
      exact Keeps.fail_shrinks (hi.fails.grow (skipLine_grows _))
    rw [hp] at hi hshrink
    dsimp only
    rcases hend : c₁.endLine with ⟨_ | _, c₂⟩
    · exact Keeps.fail_shrinks ((endLine_false hend).after hi.step)
    · have hs := endLine_true hend
      exact ⟨.read (hi.step.trans hs) (by simp [Usage.arithTokens]), hshrink.step hi.1 hs⟩
  · dsimp only [Cursor.advance]
    have hs := step_skip_kind hk (by decide) (by decide)
    rcases hend : c.skip.endLine with ⟨_ | _, c₂⟩
    · exact Keeps.fail_shrinks ((endLine_false hend).after hs)
    · have hs₂ := endLine_true hend
      exact ⟨.read (hs.trans hs₂) (by simp [Usage.arithTokens]),
        Shrinks.step (fun _ => skip_length (by rw [hk]; decide)) hs.1 hs₂⟩

/-- The usages of a view file after `acc`, read round by round; a clean read
ends at the end of input. -/
theorem parseUsages_keeps (c : Cursor) (acc : List Syntax.Usage) :
    Keeps (fun us => us.flatMap Usage.arithTokens) (acc.flatMap Usage.arithTokens) c
        (some (parseUsages c acc).1, (parseUsages c acc).2) ∧
      ((parseUsages c acc).2.errors = c.errors → (parseUsages c acc).2.atEnd = true) :=
  keeps_rounds (fun us => us.flatMap Usage.arithTokens) usageRound parseUsages
    (fun c acc => by rw [parseUsages_eq]) usageRound_keeps c acc

/-- At the end of a token list whose only `eof` token is its last, what is left
holds no number or operator. -/
theorem rest_arith_nil {ts pre : List Token} {c : Cursor} (hts : ts = pre ++ c.rest)
    (hend : c.atEnd = true) (heof : ∃ pre' e, ts = pre' ++ [e] ∧ ∀ t ∈ pre', t.kind ≠ .eof) :
    c.rest.filterMap Token.arith? = [] := by
  obtain ⟨pre', e, hts', hpre'⟩ := heof
  cases hr : c.rest with
  | nil => rfl
  | cons t more =>
    have ht : t.kind = .eof := by simpa [atEnd, check, peek, peekAt, hr] using hend
    cases more with
    | nil => simp [Token.arith?, ht]
    | cons m ms =>
      -- an `eof` token with a token after it is not the last
      have hmem : t ∈ ts.dropLast := by
        rw [hts, hr, List.dropLast_append_cons]
        simp
      rw [hts', List.dropLast_concat] at hmem
      exact absurd ht (hpre' t hmem)

/-- A clean read from the start of a scanned token list to its end reads every
number and operator of the list. -/
theorem Keeps.of_start {α : Type} {f : α → List ArithToken} {s : String} {ts : List Token} {x : α}
    {c : Cursor} (hscan : Token.scan s = .ok ts) (hk : Keeps f [] (Cursor.start ts).skipNewlines (some x, c))
    (hend : c.errors = [] → c.atEnd = true) (hclean : c.errors = []) :
    f x = ts.filterMap Token.arith? := by
  obtain ⟨y, xs, hy, ⟨pre, hts, hpre⟩, hf⟩ := (Keeps.after_nil (step_skipNewlines _) hk).2 hclean
  cases hy
  have hts : ts = pre ++ c.rest := hts
  obtain ⟨pre', e, hlast, -, -, hpre'⟩ := Token.scanFrom_eof hscan
  rw [hf, hts, List.filterMap_append, hpre, rest_arith_nil hts (hend hclean) ⟨pre', e, hlast, hpre'⟩,
    List.nil_append, List.append_nil]

/-- **A clean parse of a definition file keeps its numbers and operators**, in
the order of its text. -/
theorem DefFile.parse_arithTokens {s : String} {d : DefFile} (h : DefFile.parse s = .ok d) :
    ∃ ts, Token.scan s = .ok ts ∧ d.arithTokens = ts.filterMap Token.arith? := by
  unfold DefFile.parse at h
  split at h
  · cases h
  rename_i ts hscan
  refine ⟨ts, hscan, ?_⟩
  obtain ⟨hk, hend⟩ := parseDecls_keeps (Cursor.start ts).skipNewlines {}
  unfold DefFile.ofTokens at h
  rcases hp : parseDecls (Cursor.start ts).skipNewlines {} with ⟨d₀, c⟩
  rw [hp] at h hk hend
  dsimp only at h
  split at h
  · rename_i heq
    obtain ⟨rfl, herr⟩ := Prod.mk.inj heq
    cases h
    exact Keeps.of_start hscan hk hend herr
  · cases h

/-- **A clean parse of a view file keeps its numbers and operators**, in the
order of its text. -/
theorem ViewFile.parse_arithTokens {s : String} {v : ViewFile} (h : ViewFile.parse s = .ok v) :
    ∃ ts, Token.scan s = .ok ts ∧ v.arithTokens = ts.filterMap Token.arith? := by
  unfold ViewFile.parse at h
  split at h
  · cases h
  rename_i ts hscan
  refine ⟨ts, hscan, ?_⟩
  obtain ⟨hk, hend⟩ := parseUsages_keeps (Cursor.start ts).skipNewlines []
  unfold ViewFile.ofTokens at h
  rcases hp : parseUsages (Cursor.start ts).skipNewlines [] with ⟨us, c⟩
  rw [hp] at h hk hend
  dsimp only at h
  split at h
  · rename_i heq
    obtain ⟨rfl, herr⟩ := Prod.mk.inj heq
    cases h
    exact (Keeps.of_start hscan hk hend herr :)
  · cases h

end UiLang
