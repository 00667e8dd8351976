import UiLang.Proofs.CursorLeads

/-!
# Error recovery: every loop reads on, partial trees are well shaped

The parser recovers from an error by recording it and skipping to the next
line, and each of its loops stops early if a round reads no token. That stop
never happens: every round of every loop reads at least one token
(`ReadsOnEveryRound`), so each loop runs until its own exit. What parsing
returns, with or without errors, is well shaped (`DefFile.Shaped`,
`ViewFile.Shaped`): arithmetic has at least one operator, every operator is an
operator token, and no list is empty. For the tokens of a scanned text the
errors come in line order (`parse_recovers`).

Each parser leads on from where it starts (`Parses`, over `Cursor.Leads`) and
returns a well-shaped tree if any; a declaration leads on from past its first
token, which gives the progress of the file loops.
-/

namespace UiLang.Syntax

/-! ## Well-shaped trees -/

/-- Arithmetic has at least one step, and each step's operator is an operator
token. -/
def Scalar.Shaped : Scalar → Prop
  | .arith _ steps => steps ≠ [] ∧ ∀ st ∈ steps, st.1.kind = .arithOp
  | _ => True

def Arg.Shaped : Arg → Prop
  | .value v => v.Shaped
  | _ => True

def Call.Shaped (f : Call) : Prop := ∀ a ∈ f.args, a.Shaped

/-- A list holds at least one item. -/
def Items.Shaped : Items → Prop
  | .values vs => vs ≠ [] ∧ ∀ v ∈ vs, v.Shaped
  | .calls fs => fs ≠ [] ∧ ∀ f ∈ fs, f.Shaped

def Rhs.Shaped : Rhs → Prop
  | .call f => f.Shaped
  | .list items => items.Shaped
  | .value v => v.Shaped

def Setting.Shaped : Setting → Prop
  | .list items => items.Shaped
  | .value v => v.Shaped

def Instance.Shaped (i : Instance) : Prop := ∀ s ∈ i.settings, s.2.Shaped

def ComponentDecl.Shaped (d : ComponentDecl) : Prop := ∀ l ∈ d.properties, l.rhs.Shaped

/-- Every value of a definition file is well shaped. -/
def DefFile.Shaped (d : DefFile) : Prop :=
  (∀ c ∈ d.components, c.Shaped) ∧ ∀ v ∈ d.vars, v.inst.Shaped

def Usage.Shaped : Usage → Prop
  | .name _ => True
  | .inst i => i.Shaped

/-- Every value of a view file is well shaped. -/
def ViewFile.Shaped (v : ViewFile) : Prop := ∀ u ∈ v.usages, u.Shaped

/-- The values and calls of a list read so far are well shaped. -/
def ItemsShaped (r : List Scalar × List Call) : Prop :=
  (∀ v ∈ r.1, v.Shaped) ∧ ∀ f ∈ r.2, f.Shaped

/-- A list of values or of calls, at least one, is well shaped. -/
theorem Items.shaped_of_read {vs : List Scalar} {fs : List Call} (h : ItemsShaped (vs, fs))
    (hne : vs ≠ [] ∨ fs ≠ []) : Items.Shaped (if fs.isEmpty then .values vs else .calls fs) := by
  split
  · rename_i hf
    exact ⟨hne.resolve_right (by simpa using hf), h.1⟩
  · rename_i hf
    exact ⟨by simpa using hf, h.2⟩

/-! ## What each parser returns -/

/-- What a parser returns from `c`: the cursor it stops at is led to from `c`,
and the tree it read, if any, satisfies `wf`. -/
def Parses {β : Type} (wf : β → Prop) (c : Cursor) (r : Option β × Cursor) : Prop :=
  Cursor.Leads c r.2 ∧ ∀ b ∈ r.1, wf b

section Parses

variable {β : Type} {wf : β → Prop} {c c' c₁ : Cursor}

open Cursor

theorem Parses.none (h : Leads c c') : Parses wf c (none, c') := ⟨h, by simp⟩

theorem Parses.some {b : β} (h : Leads c c') (hb : wf b) : Parses wf c (some b, c') :=
  ⟨h, by simpa using hb⟩

theorem Parses.after {r : Option β × Cursor} (h : Leads c c₁) (hr : Parses wf c₁ r) : Parses wf c r :=
  ⟨h.trans hr.1, hr.2⟩

theorem Parses.of_eq {r r' : Option β × Cursor} (h : Parses wf c r) (e : r = r') : Parses wf c r' :=
  e ▸ h

end Parses

open Cursor

theorem parseOperand_leads (c : Cursor) : Leads c (parseOperand c).2 := by
  unfold parseOperand
  dsimp only
  split
  · exact leads_skip c
  · cases ha : c.skip.accept .dot with
    | none => exact leads_skip c
    | some c₂ =>
      have h₂ := (leads_skip c).trans (leads_accept ha)
      dsimp only
      split
      · exact h₂.trans (leads_skip c₂)
      · exact h₂.trans (leads_report_peek c₂ _)
  · exact leads_report_peek c _

/-- An operand that was read recorded no error. -/
theorem parseOperand_errors {c c' : Cursor} {o : Operand} (h : parseOperand c = (some o, c')) :
    c'.errors = c.errors := by
  unfold parseOperand at h
  dsimp only at h
  split at h
  · cases h
    exact skip_errors c
  · split at h
    · cases h
      exact skip_errors c
    · rename_i c₂ ha
      split at h
      · cases h
        simp only [Cursor.advance, skip_errors, (accept_eq_some ha).1]
      · cases h
  · cases h

/-- The steps of arithmetic after `acc`: every operator read is an operator
token, and once one has been read the steps are not empty. -/
theorem parseSteps_parses (c : Cursor) (acc : List (Token × Operand))
    (hacc : ∀ st ∈ acc, st.1.kind = .arithOp) :
    Parses (fun ss => (∀ st ∈ ss, st.1.kind = .arithOp) ∧ (acc ≠ [] ∨ c.check .arithOp = true → ss ≠ []))
      c (parseSteps c acc) := by
  rw [parseSteps]
  split
  · rename_i hop
    dsimp only [Cursor.advance]
    have hl := (leads_skip c).trans (parseOperand_leads c.skip)
    rcases hpo : parseOperand c.skip with ⟨_ | t, c₂⟩
    · rw [hpo] at hl
      exact .none hl
    rw [hpo] at hl
    have hacc' : ∀ st ∈ acc ++ [(c.peek, t)], st.1.kind = .arithOp :=
      forall_mem_snoc hacc (peek_of_check hop)
    dsimp only
    split
    · obtain ⟨hl', hss⟩ := parseSteps_parses c₂ (acc ++ [(c.peek, t)]) hacc'
      exact ⟨hl.trans hl', fun ss hss' => ⟨(hss ss hss').1, fun _ => (hss ss hss').2 (.inl (by simp))⟩⟩
    · exact .some hl ⟨hacc', fun _ => by simp⟩
  · rename_i hop
    exact .some (.refl c) ⟨hacc, fun h => h.resolve_right hop⟩
termination_by c.rest.length

theorem parseScalar_parses (c : Cursor) : Parses Scalar.Shaped c (parseScalar c) := by
  unfold parseScalar
  dsimp only
  split
  case h_1 => exact .some (leads_skip c) trivial
  case h_2 => exact .some (leads_skip c) trivial
  case h_5 => exact .none (leads_report_peek c _)
  -- a number or a name is an operand, then the steps of arithmetic if an operator follows
  case h_3 | h_4 =>
    have hl := parseOperand_leads c
    rcases hpo : parseOperand c with ⟨_ | first, c₁⟩
    · rw [hpo] at hl
      exact .none hl
    rw [hpo] at hl
    dsimp only
    split
    · rename_i hop
      obtain ⟨hl', hss⟩ := parseSteps_parses c₁ [] (by simp)
      rcases hps : parseSteps c₁ [] with ⟨_ | steps, c₂⟩
      · rw [hps] at hl'
        exact .none (hl.trans hl')
      rw [hps] at hl' hss
      obtain ⟨hops, hne⟩ := hss steps rfl
      exact .some (hl.trans hl') ⟨hne (.inr hop), hops⟩
    · split
      · exact .some hl trivial
      · exact .some hl trivial
      · -- `X.y` alone is an error about the token the value started at
        exact .none (hl.report_start (parseOperand_errors hpo) _)

theorem parseArg_parses (c : Cursor) : Parses Arg.Shaped c (parseArg c) := by
  unfold parseArg
  dsimp only [Cursor.advance]
  split
  · have hl := ((leads_skip c).trans (leads_skip c.skip)).trans (leads_skip c.skip.skip)
    split <;> exact .some hl trivial
  · have hv := parseScalar_parses c
    rcases hps : parseScalar c with ⟨_ | v, c₁⟩
    · rw [hps] at hv
      exact .none hv.1
    · rw [hps] at hv
      exact .some hv.1 (hv.2 v rfl)

/-- The arguments of a call after `acc`, through the closing `)`. -/
theorem parseArgs_parses (fn : Token) (c : Cursor) (acc : List Arg) (hacc : ∀ a ∈ acc, a.Shaped) :
    Parses (fun as => ∀ a ∈ as, a.Shaped) c (parseArgs fn c acc) := by
  rw [parseArgs]
  have ha := parseArg_parses c
  rcases hpa : parseArg c with ⟨_ | a, c₁⟩
  · rw [hpa] at ha
    exact .none ha.1
  rw [hpa] at ha
  have hacc' := forall_mem_snoc hacc (ha.2 a rfl)
  dsimp only
  cases hcomma : c₁.accept .comma with
  | some c₂ =>
    have hl := ha.1.trans (leads_accept hcomma)
    dsimp only
    split
    · exact .after hl (parseArgs_parses fn c₂ (acc ++ [a]) hacc')
    · exact .some hl hacc'
  | none =>
    dsimp only
    cases hclose : c₁.accept .rparen with
    | some c₂ => exact .some (ha.1.trans (leads_accept hclose)) hacc'
    | none => exact .none (ha.1.trans (leads_report_peek c₁ _))
termination_by c.rest.length

theorem parseCall_parses (c : Cursor) : Parses Call.Shaped c (parseCall c) := by
  unfold parseCall
  dsimp only [Cursor.advance]
  have h₂ := (leads_skip c).trans (leads_skip c.skip)
  cases hclose : c.skip.skip.accept .rparen with
  | some c₃ => exact .some (h₂.trans (leads_accept hclose)) (by simp [Call.Shaped])
  | none =>
    dsimp only
    have ha := parseArgs_parses c.peek c.skip.skip [] (by simp)
    rcases hpa : parseArgs c.peek c.skip.skip [] with ⟨_ | args, c₃⟩
    · rw [hpa] at ha
      exact .none (h₂.trans ha.1)
    · rw [hpa] at ha
      exact .some (h₂.trans ha.1) (ha.2 args rfl)

/-- A round of a list reads a value or a call, so what it returns is not empty. -/
theorem itemRound_parses (c : Cursor) (vs : List Scalar) (fs : List Call) :
    Parses (fun r => (ItemsShaped (vs, fs) → ItemsShaped r) ∧ (r.1 ≠ [] ∨ r.2 ≠ [])) c
      (itemRound c vs fs) := by
  unfold itemRound
  split
  · split
    · have hf := parseCall_parses c
      rcases hp : parseCall c with ⟨_ | f, c₁⟩
      · rw [hp] at hf
        exact .none hf.1
      · rw [hp] at hf
        exact .some hf.1 ⟨fun h => ⟨h.1, forall_mem_snoc h.2 (hf.2 f rfl)⟩, .inr (by simp)⟩
    · exact .none (leads_report_peek c _)
  · split
    · have hv := parseScalar_parses c
      rcases hp : parseScalar c with ⟨_ | v, c₁⟩
      · rw [hp] at hv
        exact .none hv.1
      · rw [hp] at hv
        exact .some hv.1 ⟨fun h => ⟨forall_mem_snoc h.1 (hv.2 v rfl), h.2⟩, .inl (by simp)⟩
    · exact .none (leads_report_peek c _)

/-- The items of a list, read round by round until its closing bracket. -/
theorem parseItems_parses (c : Cursor) (vs : List Scalar) (fs : List Call) (h : ItemsShaped (vs, fs)) :
    Parses Items.Shaped c (parseItems c vs fs) := by
  rw [parseItems]
  dsimp only
  have hround := itemRound_parses c vs fs
  split
  · rename_i c₁ heq
    exact .none (hround.of_eq heq).1
  · rename_i vs' fs' c₁ heq
    obtain ⟨hl, hr⟩ := hround.of_eq heq
    obtain ⟨hsh, hne⟩ := hr (vs', fs') rfl
    have hitems := Items.shaped_of_read (hsh h) hne
    cases hcomma : c₁.accept .comma with
    | some c₂ =>
      have h₂ := hl.trans (leads_accept hcomma)
      dsimp only
      cases hclose : c₂.accept .rbracket with
      | some c₃ => exact .some (h₂.trans (leads_accept hclose)) hitems
      | none =>
        dsimp only
        split
        · exact .after h₂ (parseItems_parses c₂ vs' fs' (hsh h))
        · exact .some h₂ hitems
    | none =>
      dsimp only
      cases hclose : c₁.accept .rbracket with
      | some c₂ => exact .some (hl.trans (leads_accept hclose)) hitems
      | none => exact .none (hl.trans (leads_report_peek c₁ _))
termination_by c.rest.length

theorem parseList_parses (c : Cursor) : Parses Items.Shaped c (parseList c) := by
  unfold parseList
  dsimp only [Cursor.advance]
  split
  · -- the empty list is reported at its `[`, read already
    exact .none (((leads_skip c).report_start (skip_errors c) _).trans (leads_skip _))
  · exact .after (leads_skip c) (parseItems_parses c.skip [] [] (by simp [ItemsShaped]))

theorem parseRhs_parses (c : Cursor) : Parses Rhs.Shaped c (parseRhs c) := by
  unfold parseRhs
  split
  · have hi := parseList_parses c
    rcases hp : parseList c with ⟨_ | items, c₁⟩
    · rw [hp] at hi
      exact .none hi.1
    · rw [hp] at hi
      exact .some hi.1 (hi.2 items rfl)
  split
  · have hf := parseCall_parses c
    rcases hp : parseCall c with ⟨_ | f, c₁⟩
    · rw [hp] at hf
      exact .none hf.1
    · rw [hp] at hf
      exact .some hf.1 (hf.2 f rfl)
  · have hv := parseScalar_parses c
    rcases hp : parseScalar c with ⟨_ | v, c₁⟩
    · rw [hp] at hv
      exact .none hv.1
    · rw [hp] at hv
      exact .some hv.1 (hv.2 v rfl)

/-! ## Declarations

A declaration reads its first token before anything else, so each of these
leads on from the cursor past that token. -/

theorem parsePropertyLine_parses (c : Cursor) :
    Parses (·.rhs.Shaped) c.skip (parsePropertyLine c) := by
  unfold parsePropertyLine
  dsimp only [Cursor.advance]
  have hr := parseRhs_parses c.skip.skip
  rcases hp : parseRhs c.skip.skip with ⟨_ | rhs, c₂⟩
  · rw [hp] at hr
    exact .none (((leads_skip _).trans hr.1).trans (leads_skipLine _))
  rw [hp] at hr
  dsimp only
  have h₂ := (leads_skip _).trans hr.1
  rcases hend : c₂.endLine with ⟨_ | _, c₃⟩
  · exact .none (h₂.trans (leads_endLine hend))
  · exact .some (h₂.trans (leads_endLine hend)) (hr.2 rhs rfl)

/-- The property lines of a body after `acc`. -/
theorem parseBody_parses (c : Cursor) (acc : List PropertyLine) (hacc : ∀ l ∈ acc, l.rhs.Shaped) :
    Parses (fun ls => ∀ l ∈ ls, l.rhs.Shaped) c (some (parseBody c acc).1, (parseBody c acc).2) := by
  rw [parseBody]
  dsimp only
  have hn := leads_skipNewlines c
  split
  · have hl := parsePropertyLine_parses c.skipNewlines
    rcases hp : parsePropertyLine c.skipNewlines with ⟨line?, c₁⟩
    rw [hp] at hl
    have hacc' := forall_mem_append_toList hacc hl.2
    have h₁ := hn.trans ((leads_skip _).trans hl.1)
    dsimp only
    split
    · exact .after h₁ (parseBody_parses c₁ _ hacc')
    · exact .some h₁ hacc'
  · exact .some hn hacc
termination_by c.rest.length

theorem parseComponent_parses (c : Cursor) : Parses ComponentDecl.Shaped c.skip (parseComponent c) := by
  unfold parseComponent
  dsimp only [Cursor.advance]
  split
  · cases hcolon : c.skip.skip.accept .colon with
    | none => exact .none (((leads_skip _).trans (leads_report_peek _ _)).trans (leads_skipLine _))
    | some c₃ =>
      have h₃ := (leads_skip _).trans (leads_accept hcolon)
      dsimp only
      rcases hend : c₃.endLine with ⟨_ | _, c₄⟩
      · exact .none (h₃.trans (leads_endLine hend))
      dsimp only
      have hb := parseBody_parses c₄ [] (by simp)
      rcases hpb : parseBody c₄ [] with ⟨props, c₅⟩
      rw [hpb] at hb
      exact .some ((h₃.trans (leads_endLine hend)).trans hb.1) (hb.2 props rfl)
  · exact .none ((leads_report_peek _ _).trans (leads_skipLine _))

theorem parseSetting_parses (c : Cursor) : Parses (·.2.Shaped) c.skip (parseSetting c) := by
  unfold parseSetting
  dsimp only [Cursor.advance]
  have h₂ := leads_skip c.skip
  split
  · have hi := parseList_parses c.skip.skip
    rcases hp : parseList c.skip.skip with ⟨_ | items, c₃⟩
    · rw [hp] at hi
      exact .none (h₂.trans hi.1)
    · rw [hp] at hi
      exact .some (h₂.trans hi.1) (hi.2 items rfl)
  · have hv := parseScalar_parses c.skip.skip
    rcases hp : parseScalar c.skip.skip with ⟨_ | v, c₃⟩
    · rw [hp] at hv
      exact .none (h₂.trans hv.1)
    · rw [hp] at hv
      exact .some (h₂.trans hv.1) (hv.2 v rfl)

/-- The settings after `WITH`, after `acc`. -/
theorem parseSettings_parses (c : Cursor) (acc : List (Token × Setting)) (hacc : ∀ s ∈ acc, s.2.Shaped) :
    Parses (fun ss => ∀ s ∈ ss, s.2.Shaped) c (parseSettings c acc) := by
  rw [parseSettings]
  split
  · have hs := parseSetting_parses c
    rcases hp : parseSetting c with ⟨_ | s, c₁⟩
    · rw [hp] at hs
      exact .none ((leads_skip c).trans hs.1)
    rw [hp] at hs
    have h₁ := (leads_skip c).trans hs.1
    have hacc' := forall_mem_snoc hacc (hs.2 s rfl)
    dsimp only
    cases hcomma : c₁.accept .comma with
    | none => exact .some h₁ hacc'
    | some c₂ =>
      have h₂ := h₁.trans (leads_accept hcomma)
      dsimp only
      split
      · exact .after h₂ (parseSettings_parses c₂ _ hacc')
      · exact .some h₂ hacc'
  · exact .none (leads_report_peek c _)
termination_by c.rest.length

theorem parseInstance_parses (c : Cursor) : Parses Instance.Shaped c.skip (parseInstance c) := by
  unfold parseInstance
  dsimp only [Cursor.advance]
  cases hwith : c.skip.accept .withKw with
  | none => exact .some (.refl _) (by simp [Instance.Shaped])
  | some c₂ =>
    have h₂ := leads_accept hwith
    dsimp only
    have hss := parseSettings_parses c₂ [] (by simp)
    rcases hp : parseSettings c₂ [] with ⟨_ | ss, c₃⟩
    · rw [hp] at hss
      exact .none (h₂.trans hss.1)
    · rw [hp] at hss
      exact .some (h₂.trans hss.1) (hss.2 ss rfl)

theorem parseVariable_parses (c : Cursor) : Parses (·.inst.Shaped) c.skip (parseVariable c) := by
  have hi := parseInstance_parses c
  unfold parseVariable
  rcases hp : parseInstance c with ⟨_ | inst, c₁⟩
  · rw [hp] at hi
    exact .none (hi.1.trans (leads_skipLine _))
  rw [hp] at hi
  dsimp only
  cases has : c₁.accept .asKw with
  | none => exact .none ((hi.1.trans (leads_report_peek _ _)).trans (leads_skipLine _))
  | some c₂ =>
    have h₂ := hi.1.trans (leads_accept has)
    dsimp only
    split
    · dsimp only [Cursor.advance]
      rcases hend : c₂.skip.endLine with ⟨_ | _, c₄⟩
      · exact .none ((h₂.trans (leads_skip _)).trans (leads_endLine hend))
      · exact .some ((h₂.trans (leads_skip _)).trans (leads_endLine hend)) (hi.2 inst rfl)
    · exact .none ((h₂.trans (leads_report_peek _ _)).trans (leads_skipLine _))

/-! ## Files -/

/-- A round of a definition file reads a token, and keeps the declarations read
well shaped. -/
theorem declRound_parses (c : Cursor) (acc : DefFile) :
    Round c (declRound c acc).2 ∧ (acc.Shaped → (declRound c acc).1.Shaped) := by
  unfold declRound
  split
  · dsimp only
    -- an error about the order of declarations leaves the tokens as they are
    by_cases hv : acc.vars.isEmpty
    · rw [if_pos hv]
      have hp := parseComponent_parses c
      rcases hpc : parseComponent c with ⟨comp?, c₁⟩
      rw [hpc] at hp
      exact ⟨.of_skip hp.1, fun h => ⟨forall_mem_append_toList h.1 hp.2, h.2⟩⟩
    · rw [if_neg hv]
      have hp := parseComponent_parses (c.report c.peek .componentAfterVariable)
      rcases hpc : parseComponent (c.report c.peek .componentAfterVariable) with ⟨comp?, c₁⟩
      rw [hpc] at hp
      exact ⟨⟨(leads_report_peek c _).trans ((leads_skip _).trans hp.1), hp.1.lt_of_skip⟩,
        fun h => ⟨forall_mem_append_toList h.1 hp.2, h.2⟩⟩
  · have hp := parseVariable_parses c
    rcases hpv : parseVariable c with ⟨var?, c₁⟩
    rw [hpv] at hp
    exact ⟨.of_skip hp.1, fun h => ⟨h.1, forall_mem_append_toList h.2 hp.2⟩⟩
  · exact ⟨round_skipLine c _, id⟩

/-- A round of a view file reads a token, and keeps the usages read well shaped. -/
theorem usageRound_parses (c : Cursor) (acc : List Usage) :
    Round c (usageRound c acc).2 ∧ ((∀ u ∈ acc, u.Shaped) → ∀ u ∈ (usageRound c acc).1, u.Shaped) := by
  unfold usageRound
  split
  · exact ⟨round_skipLine c _, id⟩
  split
  · have hi := parseInstance_parses c
    rcases hp : parseInstance c with ⟨_ | inst, c₁⟩
    · rw [hp] at hi
      exact ⟨.of_skip (hi.1.trans (leads_skipLine _)), id⟩
    rw [hp] at hi
    dsimp only
    rcases hend : c₁.endLine with ⟨_ | _, c₂⟩
    · exact ⟨.of_skip (hi.1.trans (leads_endLine hend)), id⟩
    · exact ⟨.of_skip (hi.1.trans (leads_endLine hend)), fun h => forall_mem_snoc h (hi.2 inst rfl)⟩
  · dsimp only [Cursor.advance]
    rcases hend : c.skip.endLine with ⟨_ | _, c₂⟩
    · exact ⟨.of_skip (leads_endLine hend), id⟩
    · exact ⟨.of_skip (leads_endLine hend), fun h => forall_mem_snoc h trivial⟩

/-- A file is read round by round, blank lines skipped after each, to the end of
input. When each round leads on and keeps `wf`, so does the whole read. -/
theorem parses_rounds {α : Type} (wf : α → Prop) (round loop : Cursor → α → α × Cursor)
    (hloop : ∀ c acc, loop c acc =
      if c.atEnd then (acc, c)
      else if (round c acc).2.skipNewlines.rest.length < c.rest.length then
        loop (round c acc).2.skipNewlines (round c acc).1
      else ((round c acc).1, (round c acc).2.skipNewlines))
    (hround : ∀ c acc, Leads c (round c acc).2 ∧ (wf acc → wf (round c acc).1))
    (c : Cursor) (acc : α) (hacc : wf acc) : Leads c (loop c acc).2 ∧ wf (loop c acc).1 := by
  rw [hloop]
  split
  · exact ⟨.refl c, hacc⟩
  obtain ⟨hl, hwf⟩ := hround c acc
  have hn := hl.trans (leads_skipNewlines _)
  split
  · obtain ⟨hl', hwf'⟩ := parses_rounds wf round loop hloop hround _ _ (hwf hacc)
    exact ⟨hn.trans hl', hwf'⟩
  · exact ⟨hn, hwf hacc⟩
termination_by c.rest.length

theorem parseDecls_parses (c : Cursor) (acc : DefFile) (hacc : acc.Shaped) :
    Leads c (parseDecls c acc).2 ∧ (parseDecls c acc).1.Shaped :=
  parses_rounds DefFile.Shaped declRound parseDecls (fun c acc => by rw [parseDecls_eq])
    (fun c acc => ⟨(declRound_parses c acc).1.leads, (declRound_parses c acc).2⟩) c acc hacc

theorem parseUsages_parses (c : Cursor) (acc : List Usage) (hacc : ∀ u ∈ acc, u.Shaped) :
    Leads c (parseUsages c acc).2 ∧ ∀ u ∈ (parseUsages c acc).1, u.Shaped :=
  parses_rounds (fun us => ∀ u ∈ us, u.Shaped) usageRound parseUsages
    (fun c acc => by rw [parseUsages_eq])
    (fun c acc => ⟨(usageRound_parses c acc).1.leads, (usageRound_parses c acc).2⟩) c acc hacc

/-! ## Every round reads on -/

/-- Every loop of the parser reads at least one token per round. Each field is
the test a loop makes before its next round, that fewer tokens are left than at
the start of the round: it always passes, so no loop stops for want of progress,
and each runs until its own exit. -/
structure ReadsOnEveryRound : Prop where
  steps : ∀ (c : Cursor) (t : Operand) (c₂ : Cursor), c.check .arithOp = true →
    parseOperand c.skip = (some t, c₂) → c₂.rest.length < c.rest.length
  args : ∀ (c : Cursor) (a : Arg) (c₁ c₂ : Cursor), parseArg c = (some a, c₁) →
    c₁.accept .comma = some c₂ → c₂.rest.length < c.rest.length
  items : ∀ (c : Cursor) (vs : List Scalar) (fs : List Call) (r : List Scalar × List Call)
    (c₁ c₂ : Cursor), itemRound c vs fs = (some r, c₁) → c₁.accept .comma = some c₂ →
      c₂.rest.length < c.rest.length
  body : ∀ c : Cursor, c.skipNewlines.atAssignment = true →
    (parsePropertyLine c.skipNewlines).2.rest.length < c.rest.length
  settings : ∀ (c : Cursor) (s : Token × Setting) (c₁ c₂ : Cursor), parseSetting c = (some s, c₁) →
    c₁.accept .comma = some c₂ → c₂.rest.length < c.rest.length
  decls : ∀ (c : Cursor) (acc : DefFile), c.atEnd = false →
    (declRound c acc).2.skipNewlines.rest.length < c.rest.length
  usages : ∀ (c : Cursor) (acc : List Usage), c.atEnd = false →
    (usageRound c acc).2.skipNewlines.rest.length < c.rest.length

theorem reads_on_every_round : ReadsOnEveryRound where
  steps c t c₂ hop hpo := by
    have h := parseOperand_leads c.skip
    rw [hpo] at h
    exact h.lt_of_skip (by rw [peek_of_check hop]; decide)
  args c a c₁ c₂ hpa hcomma := by
    have h := (parseArg_parses c).1
    rw [hpa] at h
    exact h.accept_lt hcomma (by decide)
  items c vs fs r c₁ c₂ hr hcomma := by
    have h := (itemRound_parses c vs fs).1
    rw [hr] at h
    exact h.accept_lt hcomma (by decide)
  body c hassign := by
    have h := (parsePropertyLine_parses c.skipNewlines).1.lt_of_skip
      (by rw [peek_of_atAssignment hassign]; decide)
    exact Nat.lt_of_lt_of_le h (leads_skipNewlines c).length_le
  settings c s c₁ c₂ hps hcomma := by
    have h := (leads_skip c).trans (parseSetting_parses c).1
    rw [hps] at h
    exact h.accept_lt hcomma (by decide)
  decls c acc hend := (declRound_parses c acc).1.skipNewlines_lt hend
  usages c acc hend := (usageRound_parses c acc).1.skipNewlines_lt hend

/-! ## Parsing a file -/

/-- **Parsing a definition file leaves a well-shaped tree** whatever the
tokens, and for tokens in line order its errors come in line order. -/
theorem DefFile.ofTokens_recovers (ts : List Token) :
    (DefFile.ofTokens ts).1.Shaped ∧
      ((Cursor.start ts).LinesInOrder → (DefFile.ofTokens ts).2.Pairwise fun e f => e.line ≤ f.line) := by
  obtain ⟨hl, hs⟩ := parseDecls_parses (Cursor.start ts).skipNewlines {} (by simp [DefFile.Shaped])
  unfold DefFile.ofTokens
  rcases hp : parseDecls (Cursor.start ts).skipNewlines {} with ⟨d, c⟩
  rw [hp] at hl hs
  exact ⟨hs, fun h => (((leads_skipNewlines _).trans hl).inOrder h).errors_sorted⟩

/-- **Parsing a view file leaves a well-shaped tree** whatever the tokens, and
for tokens in line order its errors come in line order. -/
theorem ViewFile.ofTokens_recovers (ts : List Token) :
    (ViewFile.ofTokens ts).1.Shaped ∧
      ((Cursor.start ts).LinesInOrder → (ViewFile.ofTokens ts).2.Pairwise fun e f => e.line ≤ f.line) := by
  obtain ⟨hl, hs⟩ := parseUsages_parses (Cursor.start ts).skipNewlines [] (by simp)
  unfold ViewFile.ofTokens
  rcases hp : parseUsages (Cursor.start ts).skipNewlines [] with ⟨us, c⟩
  rw [hp] at hl hs
  exact ⟨hs, fun h => (((leads_skipNewlines _).trans hl).inOrder h).errors_sorted⟩

/-- **Parsing recovers from errors and reads on.** Every loop of the parser
reads a token on every round; whatever the tokens, definition and view files
parse to well-shaped trees, with errors or without; and for the tokens of a
scanned text the errors come in line order. -/
theorem parse_recovers :
    ReadsOnEveryRound ∧
      (∀ ts, (DefFile.ofTokens ts).1.Shaped ∧ (ViewFile.ofTokens ts).1.Shaped) ∧
      ∀ s ts, Token.scan s = .ok ts →
        (DefFile.ofTokens ts).2.Pairwise (fun e f => e.line ≤ f.line) ∧
        (ViewFile.ofTokens ts).2.Pairwise (fun e f => e.line ≤ f.line) :=
  ⟨reads_on_every_round,
    fun ts => ⟨(DefFile.ofTokens_recovers ts).1, (ViewFile.ofTokens_recovers ts).1⟩,
    fun _ _ h => ⟨(DefFile.ofTokens_recovers _).2 (scan_linesInOrder h),
      (ViewFile.ofTokens_recovers _).2 (scan_linesInOrder h)⟩⟩

/-- A definition text with a mistake on each of its three lines. -/
def threeBadLines : String := "BUTTON B\nx = [ ]\n7\n"

theorem threeBadLines_errors_in_order :
    ∃ ts, Token.scan threeBadLines = .ok ts ∧
      (DefFile.ofTokens ts).2.Pairwise (fun e f => e.line ≤ f.line) ∧
      (ViewFile.ofTokens ts).2.Pairwise (fun e f => e.line ≤ f.line) := by
  have hsome : (Token.scan threeBadLines).toOption.isSome = true := by decide +kernel
  obtain ⟨ts, hts⟩ := Option.isSome_iff_exists.1 hsome
  have hok : Token.scan threeBadLines = .ok ts := by
    revert hts
    cases Token.scan threeBadLines <;> simp [Except.toOption]
  exact ⟨ts, hok, parse_recovers.2.2 threeBadLines ts hok⟩

end UiLang.Syntax
