import UiLang.Proofs.ReadBack

/-!
# What loading produces

Every definition section and every view that loading produces is well formed
(`Definition.load_wellFormed`, `View.load_wellFormed`). Its names are words
and no keywords, as the scanner makes identifier tokens only of such words; its
strings can be quoted again, as the scanner ends a string at its quote and at a
line end; its numbers fit; its lists and settings have items and its arithmetic
has an operator, as the parser reads at least one of each; a member argument is
never `X.view`, which the parser reads as a view; a component's kind is a base
kind; and the arguments of an instance are no lone calls.

The parser is taken one function at a time. At a cursor whose tokens all have
the texts of their kinds (`Cursor.Good`), each function leaves such a cursor and
returns a tree that builds only well-formed parts (`BuildsOnly`).
-/

namespace UiLang

open Token Syntax

/-- Every part that a tree builds is well formed. -/
def BuildsOnly {σ π ε : Type} (build : σ → Except ε π) (wf : π → Prop) (t : σ) : Prop :=
  ∀ p, build t = .ok p → wf p

theorem BuildsOnly.mapM {σ π ε : Type} {build : σ → Except ε π} {wf : π → Prop} {ts : List σ}
    (h : ∀ t ∈ ts, BuildsOnly build wf t) :
    BuildsOnly (List.mapM build) (fun ps => ∀ p ∈ ps, wf p) ts := by
  intro ps hps p hp
  obtain ⟨t, ht, hb⟩ := Except.mapM_eq_ok_mem_right hps p hp
  exact h t ht p hb

/-- A tree whose part is built by mapping over another build. -/
theorem BuildsOnly.map {σ σ' π π' ε : Type} {build : σ → Except ε π} {wf : π → Prop} {t : σ}
    {build' : σ' → Except ε π'} {wf' : π' → Prop} {t' : σ'} {f : π → π'}
    (h : BuildsOnly build wf t) (he : build' t' = f <$> build t) (hf : ∀ p, wf p → wf' (f p)) :
    BuildsOnly build' wf' t' := by
  intro p hp
  rw [he] at hp
  obtain ⟨q, hq, rfl⟩ := Except.map_eq_ok.1 hp
  exact hf q (h q hq)

theorem Except.mapM_ne_nil {σ π ε : Type} {f : σ → Except ε π} {l : List σ} {ps : List π}
    (h : l.mapM f = .ok ps) (hl : l ≠ []) : ps ≠ [] := by
  rintro rfl
  exact hl (List.forall₂_nil_right_iff.1 (Except.mapM_eq_ok.1 h))

/-! ## Cursors over tokens with the texts of their kinds -/

namespace Syntax.Cursor

/-- Every token still to read has the text of its kind. -/
def Good (c : Cursor) : Prop := ∀ t ∈ c.rest, Lexical t.kind t.text.toList

variable {c c' : Cursor}

theorem Good.peekAt (h : c.Good) (n : Nat) :
    Lexical (c.peekAt n).kind (c.peekAt n).text.toList := by
  unfold Cursor.peekAt
  cases hd : (c.rest.drop n).head? with
  | none => exact rfl
  | some t => exact h t (List.mem_of_mem_drop (List.mem_of_mem_head? hd))

theorem Good.peek (h : c.Good) : Lexical c.peek.kind c.peek.text.toList := h.peekAt 0

theorem Good.skip (h : c.Good) : c.skip.Good := by
  unfold Cursor.skip
  split
  · exact h
  · exact fun t ht => h t (List.mem_of_mem_tail ht)

theorem Good.report (h : c.Good) (t : Token) (p : ParseProblem) : (c.report t p).Good := h

theorem Good.accept (h : c.Good) {k : TokenKind} (ha : c.accept k = some c') : c'.Good := by
  unfold Cursor.accept at ha
  split at ha
  · cases ha
    exact h.skip
  · cases ha

theorem Good.dropWhile (h : c.Good) (p : Token → Bool) : Good { c with rest := c.rest.dropWhile p } :=
  fun t ht => h t ((List.dropWhile_sublist p).subset ht)

theorem Good.skipNewlines (h : c.Good) : c.skipNewlines.Good := h.dropWhile _

theorem Good.getD_accept (h : c.Good) (k : TokenKind) : ((c.accept k).getD c).Good := by
  cases ha : c.accept k with
  | none => exact h
  | some c' => exact h.accept ha

theorem Good.skipLine (h : c.Good) : c.skipLine.Good := by
  unfold Cursor.skipLine
  exact (h.dropWhile _).getD_accept _

theorem Good.endLine (h : c.Good) : c.endLine.2.Good := by
  unfold Cursor.endLine
  split
  · exact h
  · cases ha : c.accept .newline with
    | some c' => exact h.accept ha
    | none => exact (h.report _ _).skipLine

theorem Good.endLine_eq (h : c.Good) {b : Bool} (he : c.endLine = (b, c')) : c'.Good := by
  have hg := h.endLine
  rw [he] at hg
  exact hg

/-- The next token is never passed while it is the end of input, so after a
token of another kind the cursor looks one token further. -/
theorem peekAt_skip (h : c.peek.kind ≠ .eof) (n : Nat) : c.skip.peekAt n = c.peekAt (n + 1) := by
  obtain ⟨_ | ⟨t, r⟩, e, l⟩ := c
  · exact absurd rfl h
  · simp_all [skip, atEnd, check, peekAt, peek]

theorem isName_peekAt (h : c.Good) {n : Nat} (hk : (c.peekAt n).kind = .identifier) :
    IsName (c.peekAt n).text := by
  have hl := h.peekAt n
  rw [hk] at hl
  exact ⟨hl.1, by simpa using hl.2⟩

theorem isName_peek (h : c.Good) (hk : c.peek.kind = .identifier) : IsName c.peek.text :=
  isName_peekAt h hk

theorem peek_of_check {k : TokenKind} (h : c.check k = true) : c.peek.kind = k := by
  simpa [check] using h

theorem peek_of_atCall (h : c.atCall = true) : c.peek.kind = .identifier := by
  simp only [atCall, check, Bool.and_eq_true, beq_iff_eq] at h
  exact h.1

theorem peek_of_atAssignment (h : c.atAssignment = true) : c.peek.kind = .identifier := by
  simp only [atAssignment, check, Bool.and_eq_true, beq_iff_eq] at h
  exact h.1

theorem check_skip (h : c.peek.kind ≠ .eof) (k : TokenKind) : c.skip.check k = c.checkAt 1 k := by
  rw [check, peek, peekAt_skip h]
  rfl

end Syntax.Cursor

/-! ## Tokens and what they build -/

theorem literal_of_readNumber {t : Token} {n : Int} (hl : Lexical .number t.text.toList)
    (h : readNumber t = .ok n) : Literal n := by
  rw [readNumber_of_lexical hl] at h
  split at h
  · cases h
    exact ⟨Int.natCast_nonneg _, by exact_mod_cast ‹_›⟩
  · cases h

/-- A string token has a quote at each end and neither that quote nor a line end
between them, so what is between them can be quoted again. -/
theorem quotable_unquote {t : String} (h : Lexical .string t.toList) : Quotable (unquote t) := by
  obtain ⟨q, body, hq, hbody, ht⟩ := h
  have hlen : t.length ≥ 2 := by
    rw [← String.length_toList, ht]
    simp
  have hun : unquote t = String.ofList body := by
    simp [unquote, hlen, ht]
  rw [hun]
  refine ⟨fun x hx => ?_, ?_⟩
  · rw [String.toList_ofList] at hx
    have := hbody x hx
    simp only [inString, isLineEnd, Bool.and_eq_true, bne_iff_ne, Bool.not_eq_true',
      Bool.or_eq_false_iff, decide_eq_false_iff_not] at this
    exact this.2
  · rw [String.toList_ofList]
    have hnot : q ∉ body := fun hx => by simpa [inString] using hbody q hx
    rcases hq with rfl | rfl
    · exact Or.inr hnot
    · exact Or.inl hnot

theorem ofKeyword_ne_invalid {w : String} (h : TokenKind.ofWord w = .baseComponent) :
    ComponentKind.ofKeyword w ≠ .invalid := by
  unfold TokenKind.ofWord at h
  split at h <;> simp_all [ComponentKind.ofKeyword]

theorem Operand.number_wellFormed {t : Token} (hl : Lexical .number t.text.toList) :
    BuildsOnly Operand.ofSyntax Operand.WellFormed (.number t) := by
  intro p hp
  obtain ⟨n, hn, rfl⟩ := Except.map_eq_ok.1 hp
  exact literal_of_readNumber hl hn

/-! ## Reading values -/

/-- A parser's result: the cursor it leaves reads good tokens, and the tree it
read, if any, satisfies `wf`. -/
def Sound {β : Type} (wf : β → Prop) (r : Option β × Cursor) : Prop :=
  r.2.Good ∧ ∀ b ∈ r.1, wf b

section Sound

variable {β : Type} {wf : β → Prop} {c : Cursor}

theorem Sound.none (h : c.Good) : Sound wf (none, c) := ⟨h, by simp⟩

theorem Sound.some {b : β} (h : c.Good) (hb : wf b) : Sound wf (some b, c) :=
  ⟨h, by simpa using hb⟩

theorem Sound.of_eq {r r' : Option β × Cursor} (h : Sound wf r) (e : r = r') : Sound wf r' :=
  e ▸ h

/-- A sound result either read nothing or read a tree satisfying `wf`. -/
theorem Sound.cases_eq {r : Option β × Cursor} (h : Sound wf r) :
    (∃ c, r = (Option.none, c) ∧ c.Good) ∨ ∃ b c, r = (Option.some b, c) ∧ c.Good ∧ wf b := by
  obtain ⟨_ | b, c⟩ := r
  · exact .inl ⟨c, rfl, h.1⟩
  · exact .inr ⟨b, c, rfl, h.1, h.2 b rfl⟩

end Sound

theorem parseOperand_sound {c : Cursor} (hc : c.Good) :
    Sound (BuildsOnly Operand.ofSyntax Operand.WellFormed) (parseOperand c) := by
  unfold parseOperand
  dsimp only
  split
  · rename_i hk
    have hl := hc.peek
    rw [hk] at hl
    exact .some hc.skip (Operand.number_wellFormed hl)
  · rename_i hk
    cases ha : c.skip.accept .dot with
    | none =>
      refine .some hc.skip ?_
      rintro p ⟨⟩
      exact Cursor.isName_peek hc hk
    | some c₂ =>
      have hc₂ := hc.skip.accept ha
      dsimp only
      split
      · rename_i hprop
        refine .some hc₂.skip ?_
        rintro p ⟨⟩
        simp only [Cursor.check, beq_iff_eq] at hprop
        exact ⟨Cursor.isName_peek hc hk, Cursor.isName_peek hc₂ hprop⟩
      · exact .none (hc₂.report _ _)
  · exact .none (hc.report _ _)

/-- The steps of arithmetic build well-formed operands, and once a step has been
read they are not empty. -/
theorem parseSteps_sound (c : Cursor) (acc : List (Token × Syntax.Operand)) (hc : c.Good)
    (hacc : ∀ st ∈ acc, BuildsOnly Operand.ofSyntax Operand.WellFormed st.2) :
    Sound (fun ss => (∀ st ∈ ss, BuildsOnly Operand.ofSyntax Operand.WellFormed st.2) ∧
        (acc ≠ [] ∨ c.check .arithOp = true → ss ≠ [])) (parseSteps c acc) := by
  rw [parseSteps]
  split
  · obtain ⟨hg, ho⟩ := parseOperand_sound hc.skip
    dsimp only [Cursor.advance]
    rcases hpo : parseOperand c.skip with ⟨_ | t, c₂⟩
    · rw [hpo] at hg
      exact .none hg
    rw [hpo] at hg ho
    have hacc' : ∀ st ∈ acc ++ [(c.peek, t)], BuildsOnly Operand.ofSyntax Operand.WellFormed st.2 := by
      intro st hst
      rcases List.mem_append.1 hst with hst | hst
      · exact hacc st hst
      · rw [List.mem_singleton.1 hst]
        exact ho t rfl
    dsimp only
    split
    · obtain ⟨hg', hss⟩ := parseSteps_sound c₂ (acc ++ [(c.peek, t)]) hg hacc'
      exact ⟨hg', fun ss hss' => ⟨(hss ss hss').1, fun _ => (hss ss hss').2 (Or.inl (by simp))⟩⟩
    · exact .some hg ⟨hacc', fun _ => by simp⟩
  · rename_i hop
    exact .some hc ⟨hacc, fun h => h.resolve_right hop⟩
termination_by c.rest.length

/-- Arithmetic builds a well-formed operand and well-formed steps, and at least
as many steps as it read. -/
theorem Scalar.arith_wellFormed {first : Syntax.Operand} {steps : List (Token × Syntax.Operand)}
    (hf : BuildsOnly Operand.ofSyntax Operand.WellFormed first)
    (hs : ∀ st ∈ steps, BuildsOnly Operand.ofSyntax Operand.WellFormed st.2) (hne : steps ≠ []) :
    BuildsOnly Scalar.ofSyntax Scalar.WellFormed (.arith first steps) := by
  intro p hp
  obtain ⟨f, hf', hp⟩ := Except.bind_eq_ok.1 hp
  obtain ⟨os, hos, hp⟩ := Except.bind_eq_ok.1 hp
  obtain ⟨ops, hops, hp⟩ := Except.bind_eq_ok.1 hp
  cases hp
  -- the terms and the operators, one of each for every step, paired up in order
  refine ⟨hf f hf', fun h => (List.zip_eq_nil_iff.1 h).elim (Except.mapM_ne_nil hops hne)
    (Except.mapM_ne_nil hos hne), ?_⟩
  rintro ⟨op, o⟩ hmem
  exact BuildsOnly.mapM hs os hos o (List.of_mem_zip hmem).2

theorem parseScalar_sound {c : Cursor} (hc : c.Good) :
    Sound (BuildsOnly Scalar.ofSyntax Scalar.WellFormed) (parseScalar c) := by
  unfold parseScalar
  dsimp only
  split
  case h_1 hk =>
    -- a string, which can be quoted again
    refine .some hc.skip ?_
    rintro p ⟨⟩
    have hl := hc.peek
    rw [hk] at hl
    exact quotable_unquote hl
  case h_2 =>
    refine .some hc.skip ?_
    rintro p ⟨⟩
    trivial
  case h_5 => exact .none (hc.report _ _)
  -- a number or a name is an operand, then the steps of arithmetic if an operator follows
  case h_3 | h_4 =>
    obtain ⟨hg, ho⟩ := parseOperand_sound hc
    rcases hpo : parseOperand c with ⟨_ | first, c₁⟩
    · rw [hpo] at hg
      exact .none hg
    rw [hpo] at hg ho
    have hf := ho first rfl
    dsimp only
    split
    · rename_i hop
      obtain ⟨hg', hss⟩ := parseSteps_sound c₁ [] hg (by simp)
      rcases hps : parseSteps c₁ [] with ⟨_ | steps, c₂⟩
      · rw [hps] at hg'
        exact .none hg'
      rw [hps] at hg' hss
      obtain ⟨hsteps, hne⟩ := hss steps rfl
      exact .some hg' (Scalar.arith_wellFormed hf hsteps (hne (Or.inr hop)))
    · split
      · refine .some hg ?_
        intro p hp
        obtain ⟨n, hn, rfl⟩ := Except.map_eq_ok.1 hp
        -- the number was read as an operand first
        exact hf (.num n) (by rw [Operand.ofSyntax, hn]; rfl)
      · refine .some hg ?_
        rintro p ⟨⟩
        exact hf _ rfl
      · exact .none (hg.report _ _)

theorem forall_mem_snoc {α : Type} {p : α → Prop} {l : List α} {a : α} (hl : ∀ x ∈ l, p x)
    (ha : p a) : ∀ x ∈ l ++ [a], p x :=
  List.forall_mem_append.2 ⟨hl, List.forall_mem_singleton.2 ha⟩

theorem forall_mem_append_toList {α : Type} {p : α → Prop} {l : List α} {o : Option α}
    (hl : ∀ x ∈ l, p x) (ho : ∀ x ∈ o, p x) : ∀ x ∈ l ++ o.toList, p x :=
  List.forall_mem_append.2 ⟨hl, fun x hx => ho x (Option.mem_toList.1 hx)⟩

/-- An argument `X.y` is read as a view when `y` is `view`, so a member argument
never names a view. -/
theorem parseArg_sound {c : Cursor} (hc : c.Good) :
    Sound (BuildsOnly Arg.ofSyntax Arg.WellFormed) (parseArg c) := by
  unfold parseArg
  dsimp only [Cursor.advance]
  split
  · rename_i hm
    simp only [Bool.and_eq_true, Bool.not_eq_true', Cursor.check, Cursor.checkAt, beq_iff_eq] at hm
    obtain ⟨⟨⟨hid, hdot⟩, hprop⟩, -⟩ := hm
    -- the name after the dot is two tokens on
    have h₀ : c.skip.peek = c.peekAt 1 := Cursor.peekAt_skip (by rw [hid]; decide) 0
    have h₂ : c.skip.skip.peek = c.peekAt 2 := by
      rw [Cursor.peek, Cursor.peekAt_skip (by rw [h₀, hdot]; decide), Cursor.peekAt_skip (by rw [hid]; decide)]
    have hobj := Cursor.isName_peek hc hid
    have hc₃ := hc.skip.skip.skip
    split
    · refine .some hc₃ ?_
      rintro p ⟨⟩
      exact hobj
    · rename_i hview
      refine .some hc₃ ?_
      rintro p ⟨⟩
      refine ⟨⟨hobj, ?_⟩, by simpa [Member.ofTokens] using hview⟩
      rw [Member.ofTokens, h₂]
      exact Cursor.isName_peekAt hc hprop
  · rcases (parseScalar_sound hc).cases_eq with ⟨c₁, hr, hg⟩ | ⟨v, c₁, hr, hg, hv⟩
    · rw [hr]
      exact .none hg
    · rw [hr]
      exact .some hg (hv.map rfl fun _ h => h)

/-- The arguments of a call after `acc`, each building a well-formed argument. -/
theorem parseArgs_sound (fn : Token) (c : Cursor) (acc : List Syntax.Arg) (hc : c.Good)
    (hacc : ∀ a ∈ acc, BuildsOnly Arg.ofSyntax Arg.WellFormed a) :
    Sound (fun as => ∀ a ∈ as, BuildsOnly Arg.ofSyntax Arg.WellFormed a) (parseArgs fn c acc) := by
  rw [parseArgs]
  rcases (parseArg_sound hc).cases_eq with ⟨c₁, hr, hg⟩ | ⟨a, c₁, hr, hg, ha⟩
  · rw [hr]
    exact .none hg
  rw [hr]
  dsimp only
  have hacc' := forall_mem_snoc hacc ha
  cases hcomma : c₁.accept .comma with
  | some c₂ =>
    dsimp only
    split
    · exact parseArgs_sound fn c₂ (acc ++ [a]) (hg.accept hcomma) hacc'
    · exact .some (hg.accept hcomma) hacc'
  | none =>
    dsimp only
    cases hclose : c₁.accept .rparen with
    | some c₂ => exact .some (hg.accept hclose) hacc'
    | none => exact .none (hg.report _ _)
termination_by c.rest.length

theorem Call.ofSyntax_wellFormed {name : Token} {args : List Syntax.Arg} (hn : IsName name.text)
    (ha : ∀ a ∈ args, BuildsOnly Arg.ofSyntax Arg.WellFormed a) :
    BuildsOnly Call.ofSyntax Call.WellFormed ⟨name, args⟩ := by
  intro p hp
  obtain ⟨as, has, hp⟩ := Except.bind_eq_ok.1 hp
  cases hp
  exact ⟨hn, rfl, BuildsOnly.mapM ha as has⟩

/-- A call, read where a name stands. -/
theorem parseCall_sound {c : Cursor} (hc : c.Good) (hk : c.peek.kind = .identifier) :
    Sound (BuildsOnly Call.ofSyntax Call.WellFormed) (parseCall c) := by
  have hn := Cursor.isName_peek hc hk
  unfold parseCall
  dsimp only [Cursor.advance]
  cases hclose : c.skip.skip.accept .rparen with
  | some c₃ => exact .some (hc.skip.skip.accept hclose) (Call.ofSyntax_wellFormed hn (by simp))
  | none =>
    dsimp only
    rcases (parseArgs_sound c.peek c.skip.skip [] hc.skip.skip (by simp)).cases_eq with
      ⟨c₃, hr, hg⟩ | ⟨args, c₃, hr, hg, ha⟩
    · rw [hr]
      exact .none hg
    · rw [hr]
      exact .some hg (Call.ofSyntax_wellFormed hn ha)



/-- Scalars and calls that each build a well-formed part. -/
def ItemsOk (r : List Syntax.Scalar × List Syntax.Call) : Prop :=
  (∀ v ∈ r.1, BuildsOnly Scalar.ofSyntax Scalar.WellFormed v) ∧
    ∀ f ∈ r.2, BuildsOnly Call.ofSyntax Call.WellFormed f

/-- A list builds a list of values when it has no call, and of calls otherwise;
either way it is not empty once an item has been read. -/
theorem Value.ofItems_wellFormed {r : List Syntax.Scalar × List Syntax.Call} (h : ItemsOk r)
    (hne : r.1 ≠ [] ∨ r.2 ≠ []) :
    BuildsOnly Value.ofItems Value.WellFormed (if r.2.isEmpty then .values r.1 else .calls r.2) := by
  split
  · rename_i hf
    have hvs : r.1 ≠ [] := hne.resolve_right (by simpa using hf)
    intro p hp
    rw [Value.ofItems, if_neg (by simpa using hvs)] at hp
    obtain ⟨ps, hps, rfl⟩ := Except.map_eq_ok.1 hp
    exact ⟨Except.mapM_ne_nil hps hvs, BuildsOnly.mapM h.1 ps hps⟩
  · rename_i hf
    have hfs : r.2 ≠ [] := by simpa using hf
    intro p hp
    rw [Value.ofItems, if_neg (by simpa using hfs)] at hp
    obtain ⟨ps, hps, rfl⟩ := Except.map_eq_ok.1 hp
    exact ⟨Except.mapM_ne_nil hps hfs, BuildsOnly.mapM h.2 ps hps⟩

/-- One round of reading a list: a call, when one starts here and no value has
been read, or else a value, when no call has been read. -/
def itemRound (c : Cursor) (vs : List Syntax.Scalar) (fs : List Syntax.Call) :
    Option (List Syntax.Scalar × List Syntax.Call) × Cursor :=
  if c.atCall then
    if vs.isEmpty then
      match parseCall c with
      | (some f, c1) => (some (vs, fs ++ [f]), c1)
      | (none, c1) => (none, c1)
    else (none, c.report c.peek .mixedList)
  else if fs.isEmpty then
    match parseScalar c with
    | (some v, c1) => (some (vs ++ [v], fs), c1)
    | (none, c1) => (none, c1)
  else (none, c.report c.peek .mixedList)

theorem itemRound_sound {c : Cursor} {vs : List Syntax.Scalar} {fs : List Syntax.Call}
    (hc : c.Good) (h : ItemsOk (vs, fs)) :
    Sound (fun r => ItemsOk r ∧ (r.1 ≠ [] ∨ r.2 ≠ [])) (itemRound c vs fs) := by
  unfold itemRound
  split
  · rename_i hcall
    split
    · rcases (parseCall_sound hc (Cursor.peek_of_atCall hcall)).cases_eq with ⟨c₁, hr, hg⟩ | ⟨f, c₁, hr, hg, hf⟩
      · rw [hr]
        exact .none hg
      · rw [hr]
        exact .some hg ⟨⟨h.1, forall_mem_snoc h.2 hf⟩, .inr (by simp)⟩
    · exact .none (hc.report _ _)
  · split
    · rcases (parseScalar_sound hc).cases_eq with ⟨c₁, hr, hg⟩ | ⟨v, c₁, hr, hg, hv⟩
      · rw [hr]
        exact .none hg
      · rw [hr]
        exact .some hg ⟨⟨forall_mem_snoc h.1 hv, h.2⟩, .inl (by simp)⟩
    · exact .none (hc.report _ _)

/-- The items of a list, read round by round until its closing bracket. -/
theorem parseItems_sound (c : Cursor) (vs : List Syntax.Scalar) (fs : List Syntax.Call)
    (hc : c.Good) (h : ItemsOk (vs, fs)) :
    Sound (BuildsOnly Value.ofItems Value.WellFormed) (parseItems c vs fs) := by
  rw [parseItems]
  dsimp only
  have hround := itemRound_sound hc h
  split
  · rename_i c₁ heq
    exact .none (hround.of_eq heq).1
  · rename_i vs' fs' c₁ heq
    obtain ⟨hg, hok⟩ := hround.of_eq heq
    obtain ⟨hok', hne⟩ := hok (vs', fs') rfl
    have hitems := Value.ofItems_wellFormed hok' hne
    cases hcomma : c₁.accept .comma with
    | some c₂ =>
      dsimp only
      cases hclose : c₂.accept .rbracket with
      | some c₃ => exact .some ((hg.accept hcomma).accept hclose) hitems
      | none =>
        dsimp only
        split
        · exact parseItems_sound c₂ vs' fs' (hg.accept hcomma) hok'
        · exact .some (hg.accept hcomma) hitems
    | none =>
      dsimp only
      cases hclose : c₁.accept .rbracket with
      | some c₂ => exact .some (hg.accept hclose) hitems
      | none => exact .none (hg.report _ _)
termination_by c.rest.length

theorem parseList_sound {c : Cursor} (hc : c.Good) :
    Sound (BuildsOnly Value.ofItems Value.WellFormed) (parseList c) := by
  unfold parseList
  dsimp only [Cursor.advance]
  split
  · exact .none (hc.skip.report _ _).skip
  · exact parseItems_sound c.skip [] [] hc.skip ⟨by simp, by simp⟩

/-- The right side of a property line: a list, a call or a value. -/
theorem parseRhs_sound {c : Cursor} (hc : c.Good) :
    Sound (BuildsOnly Value.ofRhs Value.WellFormed) (parseRhs c) := by
  unfold parseRhs
  split
  · rcases (parseList_sound hc).cases_eq with ⟨c₁, hr, hg⟩ | ⟨items, c₁, hr, hg, hv⟩
    · rw [hr]
      exact .none hg
    · rw [hr]
      exact .some hg hv
  split
  · rename_i hcall
    rcases (parseCall_sound hc (Cursor.peek_of_atCall hcall)).cases_eq with ⟨c₁, hr, hg⟩ | ⟨f, c₁, hr, hg, hf⟩
    · rw [hr]
      exact .none hg
    · rw [hr]
      exact .some hg (hf.map rfl fun _ h => h)
  · rcases (parseScalar_sound hc).cases_eq with ⟨c₁, hr, hg⟩ | ⟨v, c₁, hr, hg, hv⟩
    · rw [hr]
      exact .none hg
    · rw [hr]
      exact .some hg (hv.map rfl fun _ h => h)

/-! ## Reading declarations -/

theorem lineOfSyntax_wellFormed {l : PropertyLine} (hn : IsName l.name.text)
    (hv : BuildsOnly Value.ofRhs Value.WellFormed l.rhs) (comp : String) :
    BuildsOnly (lineOfSyntax comp) Assignment.WellFormed l := by
  intro a ha
  unfold lineOfSyntax at ha
  split at ha
  · rename_i v hrhs
    cases ha
    exact ⟨hn, hv v hrhs⟩
  · cases ha

/-- Property lines that build well-formed assignments, in whichever component. -/
def LinesOk (ls : List PropertyLine) : Prop :=
  ∀ l ∈ ls, ∀ comp, BuildsOnly (lineOfSyntax comp) Assignment.WellFormed l

/-- A property line `name = rhs`, read where a name stands. -/
theorem parsePropertyLine_sound {c : Cursor} (hc : c.Good) (hk : c.peek.kind = .identifier) :
    Sound (fun l => ∀ comp, BuildsOnly (lineOfSyntax comp) Assignment.WellFormed l)
      (parsePropertyLine c) := by
  have hn := Cursor.isName_peek hc hk
  unfold parsePropertyLine
  dsimp only [Cursor.advance]
  rcases (parseRhs_sound hc.skip.skip).cases_eq with ⟨c₂, hr, hg⟩ | ⟨rhs, c₂, hr, hg, hv⟩
  · rw [hr]
    exact .none hg.skipLine
  rw [hr]
  dsimp only
  rcases hend : c₂.endLine with ⟨_ | _, c₃⟩
  · exact .none (hg.endLine_eq hend)
  · exact .some (hg.endLine_eq hend) (lineOfSyntax_wellFormed hn hv)

/-- The property lines of a body, read while a line starts with `name =`. -/
theorem parseBody_sound (c : Cursor) (acc : List PropertyLine) (hc : c.Good) (hacc : LinesOk acc) :
    (parseBody c acc).2.Good ∧ LinesOk (parseBody c acc).1 := by
  rw [parseBody]
  dsimp only
  split
  · rename_i hassign
    obtain ⟨hg, hl⟩ := parsePropertyLine_sound hc.skipNewlines (Cursor.peek_of_atAssignment hassign)
    rcases hp : parsePropertyLine c.skipNewlines with ⟨line?, c₁⟩
    rw [hp] at hg hl
    have hacc' : LinesOk (acc ++ line?.toList) := forall_mem_append_toList hacc hl
    dsimp only
    split
    · exact parseBody_sound c₁ _ hg hacc'
    · exact ⟨hg, hacc'⟩
  · exact ⟨hc.skipNewlines, hacc⟩
termination_by c.rest.length

theorem Component.ofSyntax_wellFormed {d : ComponentDecl}
    (hb : ComponentKind.ofKeyword d.base.text ≠ .invalid) (hn : IsName d.name.text)
    (hp : LinesOk d.properties) : BuildsOnly Component.ofSyntax Component.WellFormed d := by
  intro comp hcomp
  rw [Component.ofSyntax_eq] at hcomp
  obtain ⟨as, has, hcomp⟩ := Except.bind_eq_ok.1 hcomp
  cases hcomp
  exact ⟨hb, hn, rfl, BuildsOnly.mapM (fun l hl => hp l hl d.name.text) as has⟩

/-- A component, read where a base keyword stands: its kind is that keyword's,
its name a name, and its body is read whole. -/
theorem parseComponent_sound {c : Cursor} (hc : c.Good) (hk : c.peek.kind = .baseComponent) :
    Sound (BuildsOnly Component.ofSyntax Component.WellFormed) (parseComponent c) := by
  have hb : ComponentKind.ofKeyword c.peek.text ≠ .invalid := by
    have hl := hc.peek
    rw [hk] at hl
    exact ofKeyword_ne_invalid (by simpa using hl.2)
  unfold parseComponent
  dsimp only [Cursor.advance]
  split
  · rename_i hid
    have hn := Cursor.isName_peek hc.skip (Cursor.peek_of_check hid)
    cases hcolon : c.skip.skip.accept .colon with
    | none => exact .none (hc.skip.skip.report _ _).skipLine
    | some c₃ =>
      dsimp only
      have hc₃ := hc.skip.skip.accept hcolon
      rcases hend : c₃.endLine with ⟨_ | _, c₄⟩
      · exact .none (hc₃.endLine_eq hend)
      dsimp only
      obtain ⟨hg', hl⟩ := parseBody_sound c₄ [] (hc₃.endLine_eq hend) (by simp [LinesOk])
      rcases hpb : parseBody c₄ [] with ⟨props, c₅⟩
      rw [hpb] at hg' hl
      exact .some hg' (Component.ofSyntax_wellFormed hb hn hl)
  · exact .none (hc.skip.report _ _).skipLine

/-- What an instance setting builds: a named value that is no lone call. -/
def SettingOk (a : String × Value) : Prop := IsName a.1 ∧ a.2.WellFormed ∧ a.2.isCall = false

theorem Value.ofItems_isCall {items : Items} {v : Value} (h : Value.ofItems items = .ok v) :
    v.isCall = false := by
  cases items with
  | values vs =>
    rw [Value.ofItems] at h
    split at h
    · cases h
    · obtain ⟨_, _, rfl⟩ := Except.map_eq_ok.1 h
      rfl
  | calls cs =>
    rw [Value.ofItems] at h
    split at h
    · cases h
    · obtain ⟨_, _, rfl⟩ := Except.map_eq_ok.1 h
      rfl

theorem settingOfSyntax_wellFormed {name : Token} {s : Setting} (hn : IsName name.text)
    (hs : BuildsOnly Value.ofSetting (fun v => v.WellFormed ∧ v.isCall = false) s) :
    BuildsOnly settingOfSyntax SettingOk (name, s) := by
  intro a ha
  obtain ⟨v, hv, ha⟩ := Except.bind_eq_ok.1 ha
  cases ha
  exact ⟨hn, hs v hv⟩

/-- A setting `name = list` or `name = value`, read where a name stands. -/
theorem parseSetting_sound {c : Cursor} (hc : c.Good) (hk : c.peek.kind = .identifier) :
    Sound (BuildsOnly settingOfSyntax SettingOk) (parseSetting c) := by
  have hn := Cursor.isName_peek hc hk
  unfold parseSetting
  dsimp only [Cursor.advance]
  split
  · rcases (parseList_sound hc.skip.skip).cases_eq with ⟨c₃, hr, hg⟩ | ⟨items, c₃, hr, hg, hv⟩
    · rw [hr]
      exact .none hg
    · rw [hr]
      exact .some hg (settingOfSyntax_wellFormed hn fun v h => ⟨hv v h, Value.ofItems_isCall h⟩)
  · rcases (parseScalar_sound hc.skip.skip).cases_eq with ⟨c₃, hr, hg⟩ | ⟨v, c₃, hr, hg, hv⟩
    · rw [hr]
      exact .none hg
    · rw [hr]
      exact .some hg (settingOfSyntax_wellFormed hn (hv.map rfl fun _ h => ⟨h, rfl⟩))

/-- The settings after `WITH`: at least one, each building a setting. -/
theorem parseSettings_sound (c : Cursor) (acc : List (Token × Setting)) (hc : c.Good)
    (hacc : ∀ s ∈ acc, BuildsOnly settingOfSyntax SettingOk s) :
    Sound (fun ss => (∀ s ∈ ss, BuildsOnly settingOfSyntax SettingOk s) ∧ ss ≠ [])
      (parseSettings c acc) := by
  rw [parseSettings]
  split
  · rename_i hassign
    rcases (parseSetting_sound hc (Cursor.peek_of_atAssignment hassign)).cases_eq with
      ⟨c₁, hr, hg⟩ | ⟨s, c₁, hr, hg, hs⟩
    · rw [hr]
      exact .none hg
    rw [hr]
    dsimp only
    have hacc' := forall_mem_snoc hacc hs
    cases hcomma : c₁.accept .comma with
    | none => exact .some hg ⟨hacc', by simp⟩
    | some c₂ =>
      dsimp only
      split
      · exact parseSettings_sound c₂ _ (hg.accept hcomma) hacc'
      · exact .some (hg.accept hcomma) ⟨hacc', by simp⟩
  · exact .none (hc.report _ _)
termination_by c.rest.length

theorem Instance.ofSyntax_wellFormed {i : Syntax.Instance} (hn : IsName i.name.text)
    (hs : ∀ s ∈ i.settings, BuildsOnly settingOfSyntax SettingOk s) :
    BuildsOnly Instance.ofSyntax Instance.WellFormed i := by
  intro j hj
  rw [Instance.ofSyntax_eq] at hj
  obtain ⟨args, hargs, hj⟩ := Except.bind_eq_ok.1 hj
  cases hj
  exact ⟨hn, BuildsOnly.mapM hs args hargs⟩

theorem Instance.ofSyntax_args_ne_nil {i : Syntax.Instance} {j : Instance}
    (h : Instance.ofSyntax i = .ok j) (hs : i.settings ≠ []) : j.args ≠ [] := by
  rw [Instance.ofSyntax_eq] at h
  obtain ⟨args, hargs, h⟩ := Except.bind_eq_ok.1 h
  cases h
  exact Except.mapM_ne_nil hargs hs

/-- An instance, read where a name stands; when `WITH` follows the name, it has
settings. -/
theorem parseInstance_sound {c : Cursor} (hc : c.Good) (hk : c.peek.kind = .identifier) :
    Sound (fun i => BuildsOnly Instance.ofSyntax Instance.WellFormed i ∧
      (c.checkAt 1 .withKw = true → i.settings ≠ [])) (parseInstance c) := by
  have hn := Cursor.isName_peek hc hk
  unfold parseInstance
  dsimp only [Cursor.advance]
  cases hwith : c.skip.accept .withKw with
  | none =>
    refine .some hc.skip ⟨Instance.ofSyntax_wellFormed hn (by simp), fun hw => ?_⟩
    -- a `WITH` after the name would have been read
    rw [Cursor.accept, Cursor.check_skip (by rw [hk]; decide), hw] at hwith
    cases hwith
  | some c₂ =>
    dsimp only
    rcases (parseSettings_sound c₂ [] (hc.skip.accept hwith) (by simp)).cases_eq with
      ⟨c₃, hr, hg⟩ | ⟨ss, c₃, hr, hg, hss, hne⟩
    · rw [hr]
      exact .none hg
    · rw [hr]
      exact .some hg ⟨Instance.ofSyntax_wellFormed hn hss, fun _ => hne⟩

theorem Variable.ofSyntax_wellFormed {v : VariableDecl} (hn : IsName v.name.text)
    (hi : BuildsOnly Instance.ofSyntax Instance.WellFormed v.inst) :
    BuildsOnly Variable.ofSyntax Variable.WellFormed v := by
  intro w hw
  unfold Variable.ofSyntax at hw
  split at hw
  · rename_i i hinst
    cases hw
    exact ⟨hn, hi i hinst⟩
  · cases hw

/-- A variable `instance AS name`, read where a name stands. -/
theorem parseVariable_sound {c : Cursor} (hc : c.Good) (hk : c.peek.kind = .identifier) :
    Sound (BuildsOnly Variable.ofSyntax Variable.WellFormed) (parseVariable c) := by
  unfold parseVariable
  rcases (parseInstance_sound hc hk).cases_eq with ⟨c₁, hr, hg⟩ | ⟨inst, c₁, hr, hg, hi, -⟩
  · rw [hr]
    exact .none hg.skipLine
  rw [hr]
  dsimp only
  cases has : c₁.accept .asKw with
  | none => exact .none (hg.report _ _).skipLine
  | some c₂ =>
    dsimp only
    have hc₂ := hg.accept has
    split
    · rename_i hid
      have hn := Cursor.isName_peek hc₂ (Cursor.peek_of_check hid)
      dsimp only [Cursor.advance]
      rcases hend : c₂.skip.endLine with ⟨_ | _, c₄⟩
      · exact .none (hc₂.skip.endLine_eq hend)
      · exact .some (hc₂.skip.endLine_eq hend) (Variable.ofSyntax_wellFormed hn hi)
    · exact .none (hc₂.report _ _).skipLine

/-! ## Reading files -/

/-- Declarations that build well-formed components and variables. -/
def DeclsOk (d : DefFile) : Prop :=
  (∀ x ∈ d.components, BuildsOnly Component.ofSyntax Component.WellFormed x) ∧
    ∀ v ∈ d.vars, BuildsOnly Variable.ofSyntax Variable.WellFormed v

/-- One round of reading a definition file: a component at a base keyword, a
variable at a name, and otherwise an error and the rest of the line. -/
def declRound (c : Cursor) (acc : DefFile) : DefFile × Cursor :=
  match c.peek.kind with
  | .baseComponent =>
    let c0 := if acc.vars.isEmpty then c else c.report c.peek .componentAfterVariable
    let (comp?, c1) := parseComponent c0
    ({ acc with components := acc.components ++ comp?.toList }, c1)
  | .identifier =>
    let (var?, c1) := parseVariable c
    ({ acc with vars := acc.vars ++ var?.toList }, c1)
  | _ => (acc, (c.report c.peek (.expectedDeclaration c.peek)).skipLine)

theorem declRound_sound {c : Cursor} {acc : DefFile} (hc : c.Good) (hacc : DeclsOk acc) :
    (declRound c acc).2.Good ∧ DeclsOk (declRound c acc).1 := by
  unfold declRound
  split
  · rename_i hk
    -- an error about the order of declarations leaves the tokens as they are
    generalize hc₀ : (if acc.vars.isEmpty then c else c.report c.peek .componentAfterVariable) = c₀
    dsimp only
    have hg₀ : c₀.Good ∧ c₀.peek.kind = .baseComponent := by
      rw [← hc₀]
      split
      · exact ⟨hc, hk⟩
      · exact ⟨hc.report _ _, hk⟩
    obtain ⟨hg, hd⟩ := parseComponent_sound hg₀.1 hg₀.2
    rcases hp : parseComponent c₀ with ⟨comp?, c₁⟩
    rw [hp] at hg hd
    exact ⟨hg, forall_mem_append_toList hacc.1 hd, hacc.2⟩
  · rename_i hk
    obtain ⟨hg, hv⟩ := parseVariable_sound hc hk
    rcases hp : parseVariable c with ⟨var?, c₁⟩
    rw [hp] at hg hv
    exact ⟨hg, hacc.1, forall_mem_append_toList hacc.2 hv⟩
  · exact ⟨(hc.report _ _).skipLine, hacc⟩

theorem parseDecls_eq (c : Cursor) (acc : DefFile) :
    parseDecls c acc =
      if c.atEnd then (acc, c)
      else
        let r := declRound c acc
        if r.2.skipNewlines.rest.length < c.rest.length then parseDecls r.2.skipNewlines r.1
        else (r.1, r.2.skipNewlines) := by
  rw [parseDecls]
  rfl

/-- The declarations of a definition file, read round by round to its end. -/
theorem parseDecls_sound (c : Cursor) (acc : DefFile) (hc : c.Good) (hacc : DeclsOk acc) :
    (parseDecls c acc).2.Good ∧ DeclsOk (parseDecls c acc).1 := by
  rw [parseDecls_eq]
  split
  · exact ⟨hc, hacc⟩
  obtain ⟨hg, hok⟩ := declRound_sound hc hacc
  dsimp only
  split
  · exact parseDecls_sound _ _ hg.skipNewlines hok
  · exact ⟨hg.skipNewlines, hok⟩
termination_by c.rest.length

theorem Definition.ofSyntax_wellFormed {d : DefFile} (h : DeclsOk d) :
    BuildsOnly Definition.ofSyntax Definition.WellFormed d := by
  intro p hp
  obtain ⟨cs, hcs, hp⟩ := Except.bind_eq_ok.1 hp
  obtain ⟨vs, hvs, hp⟩ := Except.bind_eq_ok.1 hp
  cases hp
  exact ⟨BuildsOnly.mapM h.1 cs hcs, BuildsOnly.mapM h.2 vs hvs⟩

/-- Usages that build well-formed usages. -/
def UsagesOk (us : List Syntax.Usage) : Prop :=
  ∀ u ∈ us, BuildsOnly Usage.ofSyntax Usage.WellFormed u

/-- One round of reading a view file: an instance when `WITH` follows the name,
the name alone otherwise, each ended by a line end. -/
def usageRound (c : Cursor) (acc : List Syntax.Usage) : List Syntax.Usage × Cursor :=
  if !c.check .identifier then
    (acc, (c.report c.peek (.expectedUsage c.peek)).skipLine)
  else if c.checkAt 1 .withKw then
    match parseInstance c with
    | (none, c1) => (acc, c1.skipLine)
    | (some inst, c1) =>
      match c1.endLine with
      | (true, c2) => (acc ++ [.inst inst], c2)
      | (false, c2) => (acc, c2)
  else
    let (tok, c1) := c.advance
    match c1.endLine with
    | (true, c2) => (acc ++ [.name tok], c2)
    | (false, c2) => (acc, c2)

theorem usageRound_sound {c : Cursor} {acc : List Syntax.Usage} (hc : c.Good) (hacc : UsagesOk acc) :
    (usageRound c acc).2.Good ∧ UsagesOk (usageRound c acc).1 := by
  unfold usageRound
  split
  · exact ⟨(hc.report _ _).skipLine, hacc⟩
  rename_i hid
  have hk : c.peek.kind = .identifier := Cursor.peek_of_check (by simpa using hid)
  split
  · rename_i hw
    rcases (parseInstance_sound hc hk).cases_eq with ⟨c₁, hr, hg⟩ | ⟨inst, c₁, hr, hg, hi, hne⟩
    · rw [hr]
      exact ⟨hg.skipLine, hacc⟩
    rw [hr]
    dsimp only
    rcases hend : c₁.endLine with ⟨_ | _, c₂⟩
    · exact ⟨hg.endLine_eq hend, hacc⟩
    · -- an instance usage has settings, as `WITH` follows its name
      refine ⟨hg.endLine_eq hend, forall_mem_snoc hacc fun u hu => ?_⟩
      obtain ⟨j, hj, rfl⟩ := Except.map_eq_ok.1 hu
      exact ⟨hi j hj, Instance.ofSyntax_args_ne_nil hj (hne hw)⟩
  · dsimp only [Cursor.advance]
    rcases hend : c.skip.endLine with ⟨_ | _, c₂⟩
    · exact ⟨hc.skip.endLine_eq hend, hacc⟩
    · refine ⟨hc.skip.endLine_eq hend, forall_mem_snoc hacc fun u hu => ?_⟩
      cases hu
      exact Cursor.isName_peek hc hk

theorem parseUsages_eq (c : Cursor) (acc : List Syntax.Usage) :
    parseUsages c acc =
      if c.atEnd then (acc, c)
      else
        let r := usageRound c acc
        if r.2.skipNewlines.rest.length < c.rest.length then parseUsages r.2.skipNewlines r.1
        else (r.1, r.2.skipNewlines) := by
  rw [parseUsages]
  rfl

/-- The usages of a view file, read round by round to its end. -/
theorem parseUsages_sound (c : Cursor) (acc : List Syntax.Usage) (hc : c.Good) (hacc : UsagesOk acc) :
    (parseUsages c acc).2.Good ∧ UsagesOk (parseUsages c acc).1 := by
  rw [parseUsages_eq]
  split
  · exact ⟨hc, hacc⟩
  obtain ⟨hg, hok⟩ := usageRound_sound hc hacc
  dsimp only
  split
  · exact parseUsages_sound _ _ hg.skipNewlines hok
  · exact ⟨hg.skipNewlines, hok⟩
termination_by c.rest.length

/-! ## Loading -/

/-- The tree of a definition file whose text scans builds only well-formed
definition sections. -/
theorem DefFile.parse_sound {s : String} {d : DefFile} (h : DefFile.parse s = .ok d) :
    DeclsOk d := by
  unfold DefFile.parse at h
  split at h
  · cases h
  rename_i ts hscan
  have hstart : (Cursor.start ts).Good := scan_lexical hscan
  have hread := parseDecls_sound _ {} hstart.skipNewlines ⟨by simp, by simp⟩
  unfold DefFile.ofTokens at h
  rcases hp : parseDecls (Cursor.start ts).skipNewlines {} with ⟨d₀, c⟩
  rw [hp] at h hread
  dsimp only at h
  split at h
  · rename_i heq
    obtain ⟨rfl, -⟩ := Prod.mk.inj heq
    cases h
    exact hread.2
  · cases h

theorem ViewFile.parse_sound {s : String} {v : ViewFile} (h : ViewFile.parse s = .ok v) :
    UsagesOk v.usages := by
  unfold ViewFile.parse at h
  split at h
  · cases h
  rename_i ts hscan
  have hstart : (Cursor.start ts).Good := scan_lexical hscan
  have hread := parseUsages_sound _ [] hstart.skipNewlines (by simp [UsagesOk])
  unfold ViewFile.ofTokens at h
  rcases hp : parseUsages (Cursor.start ts).skipNewlines [] with ⟨us, c⟩
  rw [hp] at h hread
  dsimp only at h
  split at h
  · rename_i heq
    obtain ⟨rfl, -⟩ := Prod.mk.inj heq
    cases h
    exact hread.2
  · cases h

/-- **What loading produces is well formed.** Every definition section loaded
from any text has names that are words and no keywords, strings that can be
quoted again, numbers that fit, lists and settings with items, arithmetic with an
operator, no member argument `X.view`, components of base kinds with their
inferred parameters, and instance arguments that are no lone calls. -/
theorem Definition.load_wellFormed {s : String} {d : Definition} (h : Definition.load s = .ok d) :
    d.WellFormed := by
  unfold Definition.load at h
  split at h
  · cases h
  rename_i file hparse
  split at h
  · cases h
  rename_i d' hd'
  cases h
  exact Definition.ofSyntax_wellFormed (DefFile.parse_sound hparse) _ hd'

/-- Every view loaded under a name from any text is well formed and has that
name; its instance usages have settings. -/
theorem View.load_wellFormed {name s : String} {v : View} (h : View.load name s = .ok v) :
    v.WellFormed ∧ v.name = name := by
  unfold View.load at h
  split at h
  · cases h
  rename_i file hparse
  split at h
  · cases h
  rename_i v' hv'
  cases h
  unfold View.ofSyntax at hv'
  split at hv'
  · rename_i us hus
    cases hv'
    exact ⟨BuildsOnly.mapM (ViewFile.parse_sound hparse) us hus, rfl⟩
  · cases hv'

end UiLang
