import UiLang.Proofs.Printer
import UiLang.Proofs.Except
import UiLang.Proofs.DecimalNumbers

/-!
# Parsing written lexemes back

The parser reads the tokens of a written program back into syntax trees that
build the program again, up to line numbers. Each `parseX` is taken at a cursor
whose tokens are those of a well-formed `X` followed by tokens that may follow
it: it reads exactly the tokens of `X`, records no error, and returns a tree
that builds `X`.

What may follow a value is a comma, a closing bracket or parenthesis, a line
end or `AS` (`endsValue`): none of these continues a name into a member, a
number into arithmetic, or a name into a call.
-/

namespace UiLang.Syntax

open Token

/-- The kind of the first token of a list: `eof` past its end, as the cursor
reads it. -/
def nextKind : List Token → TokenKind
  | [] => .eof
  | t :: _ => t.kind

/-- The kinds that may follow a value. -/
def endsValue : TokenKind → Bool
  | .comma | .rparen | .rbracket | .newline | .asKw => true
  | _ => false

/-- The kinds a value starts with. -/
def startsValue : TokenKind → Bool
  | .string | .number | .boolean | .identifier => true
  | _ => false

/-- Tokens that may follow an instance: `AS` or a line end. -/
def AfterInstance (post : List Token) : Prop := nextKind post = .asKw ∨ nextKind post = .newline

/-- Tokens that may follow a value: a comma, a closing bracket or parenthesis, a
line end or `AS`. -/
def AfterValue (post : List Token) : Prop := endsValue (nextKind post) = true

/-- `p` reads exactly the tokens `ts` with result `a`, and records no error,
whenever the tokens after them satisfy `ok`. -/
def Reads {β : Type} (p : Cursor → β × Cursor) (ok : List Token → Prop) (ts : List Token)
    (a : β) : Prop :=
  ∀ (post : List Token) (e : List ParseError) (l : Nat), ok post →
    p ⟨ts ++ post, e, l⟩ = (a, ⟨post, e, l⟩)

@[simp] theorem nextKind_cons (t : Token) (ts : List Token) : nextKind (t :: ts) = t.kind := rfl

theorem AfterInstance.afterValue {post : List Token} (h : AfterInstance post) :
    AfterValue post := by
  rcases h with h | h <;> simp [AfterValue, h, endsValue]

theorem AfterValue.ne {post : List Token} (h : AfterValue post) {k : TokenKind}
    (hk : endsValue k = false) : nextKind post ≠ k := by
  intro heq
  rw [AfterValue, heq, hk] at h
  cases h

theorem map_lex_eq_cons {ts : List Token} {x : Lexeme} {ls : List Lexeme} :
    ts.map lex = x :: ls ↔ ∃ t r, ts = t :: r ∧ t.kind = x.1 ∧ t.text = x.2 ∧ r.map lex = ls := by
  constructor
  · intro h
    obtain ⟨t, r, rfl, ht, hr⟩ := List.map_eq_cons_iff.1 h
    exact ⟨t, r, rfl, congrArg Prod.fst ht, congrArg Prod.snd ht, hr⟩
  · rintro ⟨t, r, rfl, hk, htext, hr⟩
    simp [lex, hk, htext, hr]

/-! ## The cursor at known tokens -/

namespace Cursor

variable {t : Token} {r : List Token} {e : List ParseError} {l : Nat}

@[simp] theorem peek_mk_cons : (Cursor.mk (t :: r) e l).peek = t := rfl

@[simp] theorem peekAt_mk_cons_succ (n : Nat) :
    (Cursor.mk (t :: r) e l).peekAt (n + 1) = (Cursor.mk r e l).peekAt n := rfl

theorem kind_peek (c : Cursor) : c.peek.kind = nextKind c.rest := by
  obtain ⟨_ | ⟨t, r⟩, e, l⟩ := c <;> rfl

@[simp] theorem skip_mk_cons (h : t.kind ≠ .eof) : (Cursor.mk (t :: r) e l).skip = ⟨r, e, l⟩ := by
  simp [skip, atEnd, check, h]

theorem accept_mk_cons {k : TokenKind} (h : t.kind = k) (hk : k ≠ .eof) :
    (Cursor.mk (t :: r) e l).accept k = some ⟨r, e, l⟩ := by
  subst h
  simp [accept, check, hk]

@[simp] theorem accept_mk (k : TokenKind) :
    (Cursor.mk r e l).accept k = if nextKind r = k then some (Cursor.mk r e l).skip else none := by
  simp [accept, check, kind_peek]

theorem accept_mk_of_ne {k : TokenKind} (h : nextKind r ≠ k) : (Cursor.mk r e l).accept k = none := by
  simp [accept, check, kind_peek, h]

@[simp] theorem kind_peek_mk : (Cursor.mk r e l).peek.kind = nextKind r :=
  kind_peek _

@[simp] theorem checkAt_mk_cons_succ (n : Nat) (k : TokenKind) :
    (Cursor.mk (t :: r) e l).checkAt (n + 1) k = (Cursor.mk r e l).checkAt n k := rfl

@[simp] theorem checkAt_mk_zero (k : TokenKind) :
    (Cursor.mk r e l).checkAt 0 k = (nextKind r == k) := by
  show ((Cursor.mk r e l).peek.kind == k) = _
  rw [kind_peek_mk]

theorem checkAt_mk (n : Nat) (k : TokenKind) :
    (Cursor.mk r e l).checkAt n k = (nextKind (r.drop n) == k) := by
  simp only [checkAt, peekAt]
  cases r.drop n <;> rfl

@[simp] theorem check_mk (k : TokenKind) : (Cursor.mk r e l).check k = (nextKind r == k) := by
  simp [check]

@[simp] theorem advance_mk_cons (h : t.kind ≠ .eof) :
    (Cursor.mk (t :: r) e l).advance = (t, ⟨r, e, l⟩) := by
  simp [advance, h]

end Cursor

end UiLang.Syntax

namespace UiLang

open Token Syntax

/-! ## Trees that build a program part -/

/-- A tree builds a program part that equals `p` up to line numbers. -/
def Builds {σ π ε : Type} (build : σ → Except ε π) (unlined : π → π) (t : σ) (p : π) : Prop :=
  ∃ p', build t = .ok p' ∧ unlined p' = unlined p

/-- Trees that each build their part build the list of parts, one by one. -/
theorem Builds.mapM {σ π ε : Type} {build : σ → Except ε π} {unlined : π → π} :
    ∀ {ts : List σ} {ps : List π}, List.Forall₂ (Builds build unlined) ts ps →
      Builds (List.mapM build) (List.map unlined) ts ps
  | [], [], .nil => ⟨[], rfl, rfl⟩
  | _ :: _, _ :: _, .cons ⟨p', hp, hu⟩ hrest => by
    obtain ⟨ps', hps, hus⟩ := Builds.mapM hrest
    exact ⟨p' :: ps', by simp [List.mapM_cons, hp, hps], by simp [hu, hus]⟩

theorem digitsValue_numeral (n : Int) : digitsValue (numeral n) = n.toNat := by
  have h := Nat.ofDigitChars_toDigits (b := 10) (n := n.toNat) (by decide) (by decide)
  unfold digitsValue
  rw [numeral_toList]
  unfold Nat.ofDigitChars at h
  simpa [Nat.mul_comm] using h

/-- A literal is read back as the number it was written from. -/
theorem readNumber_numeral {n : Int} (h : Literal n) {t : Token} (ht : t.text = numeral n) :
    readNumber t = .ok n := by
  have hfit : digitsValue t.text ≤ maxNumber := by
    rw [ht, digitsValue_numeral]
    exact Int.toNat_le.2 h.2
  rw [readNumber_of_lexical (ht ▸ numeral_lexical n), if_pos hfit, ht, digitsValue_numeral,
    Int.toNat_of_nonneg h.1]

theorem unquote_quoted (s : String) : unquote (quoted s) = s := by
  have hlen : (quoted s).length ≥ 2 := by
    simp only [quoted, String.length_ofList, List.length_cons, List.length_append]
    omega
  unfold unquote
  rw [if_pos hlen]
  simp only [quoted, String.toList_ofList, List.cons_append, List.drop_succ_cons, List.drop_zero,
    List.dropLast_concat, String.ofList_toList]

theorem ofKeyword_keyword (k : ComponentKind) : ComponentKind.ofKeyword k.keyword = k := by
  cases k <;> rfl

theorem ofToken_symbol {op : Operator} {t : Token} (h : t.text = op.symbol) :
    Operator.ofToken t = .ok op := by
  cases op <;> simp [Operator.ofToken, h, Operator.ofSymbol?, Operator.symbol]

/-- How a step `op operand` of arithmetic is built on its own. -/
def stepOfSyntax (st : Token × Syntax.Operand) : Except BuildFault (Operator × Operand) := do
  let o ← Operand.ofSyntax st.2
  let op ← Operator.ofToken st.1
  pure (op, o)

/-- A step of arithmetic without line numbers. -/
def stepUnlined (s : Operator × Operand) : Operator × Operand := (s.1, s.2.unlined)

theorem stepOfSyntax_eq_ok {st : Token × Syntax.Operand} {s : Operator × Operand} :
    stepOfSyntax st = .ok s ↔ Operand.ofSyntax st.2 = .ok s.2 ∧ Operator.ofToken st.1 = .ok s.1 := by
  obtain ⟨op, o⟩ := s
  simp only [stepOfSyntax, Except.bind_eq_ok, Except.pure_eq_ok, Except.ok.injEq, Prod.mk.injEq]
  constructor
  · rintro ⟨o', ho, op', hop, rfl, rfl⟩
    exact ⟨ho, hop⟩
  · rintro ⟨ho, hop⟩
    exact ⟨o, ho, op, hop, rfl, rfl⟩

/-- Steps that each build make arithmetic build from its first operand: its
terms and its operators, built apart, pair up again into those steps. -/
theorem Scalar.ofSyntax_arith_of_steps {first : Syntax.Operand}
    {steps : List (Token × Syntax.Operand)} {ss : List (Operator × Operand)}
    (h : steps.mapM stepOfSyntax = .ok ss) :
    Scalar.ofSyntax (.arith first steps) = (fun f => .arith f ss) <$> Operand.ofSyntax first := by
  -- each step built its term and its operator
  have hsteps := (Except.mapM_eq_ok.1 h).imp fun _ _ hs => stepOfSyntax_eq_ok.1 hs
  have hos : steps.mapM (fun st => Operand.ofSyntax st.2) = .ok (ss.map Prod.snd) :=
    Except.mapM_eq_ok.2 (List.forall₂_map_right_iff.2 (hsteps.imp fun _ _ hs => hs.1))
  have hops : steps.mapM (fun st => Operator.ofToken st.1) = .ok (ss.map Prod.fst) :=
    Except.mapM_eq_ok.2 (List.forall₂_map_right_iff.2 (hsteps.imp fun _ _ hs => hs.2))
  simp only [Scalar.ofSyntax, hos, hops, Except.ok_bind]
  rw [← List.unzip_fst, ← List.unzip_snd, List.zip_unzip]
  cases Operand.ofSyntax first <;> rfl

/-- How a setting `name = value` of an instance is built. -/
def settingOfSyntax (s : Token × Setting) : Except BuildFault (String × Value) := do
  let v ← Value.ofSetting s.2
  pure (s.1.text, v)

/-- A setting of an instance without line numbers. -/
def settingUnlined (a : String × Value) : String × Value := (a.1, a.2.unlined)

theorem Instance.ofSyntax_eq (i : Syntax.Instance) :
    Instance.ofSyntax i = (do
      let args ← i.settings.mapM settingOfSyntax
      pure ⟨i.name.text, i.name.line, args⟩) := rfl

theorem toString_beq_true (b : Bool) : (toString b == "true") = b := by
  cases b <;> decide

/-! ## Reading values -/

theorem Member.tokens_of_lexemes {m : Member} {ts : List Token} (h : ts.map lex = m.lexemes) :
    ∃ t₁ t₂ t₃, ts = [t₁, t₂, t₃] ∧ t₁.kind = .identifier ∧ t₂.kind = .dot ∧
      t₃.kind = .identifier ∧ t₃.text = m.prop ∧ (Member.ofTokens t₁ t₃).unlined = m.unlined := by
  obtain ⟨t₁, r₁, rfl, hk₁, htext₁, hr₁⟩ := map_lex_eq_cons.1 h
  obtain ⟨t₂, r₂, rfl, hk₂, -, hr₂⟩ := map_lex_eq_cons.1 hr₁
  obtain ⟨t₃, r₃, rfl, hk₃, htext₃, hr₃⟩ := map_lex_eq_cons.1 hr₂
  obtain rfl := List.map_eq_nil_iff.1 hr₃
  exact ⟨t₁, t₂, t₃, rfl, hk₁, hk₂, hk₃, htext₃,
    by simp [Member.ofTokens, Member.unlined, htext₁, htext₃]⟩

/-- An operand is read back from its tokens when no dot follows them. -/
theorem Operand.parse_written {o : Operand} (h : o.WellFormed) {ts : List Token}
    (hts : ts.map lex = o.lexemes) :
    ∃ t, Reads parseOperand (fun post => nextKind post ≠ .dot) ts (some t) ∧
      Builds Operand.ofSyntax Operand.unlined t o := by
  cases o with
  | num n =>
    obtain ⟨t, r, rfl, hk, htext, hr⟩ := map_lex_eq_cons.1 hts
    obtain rfl := List.map_eq_nil_iff.1 hr
    refine ⟨.number t, fun post e l _ => ?_, .num n, ?_, rfl⟩
    · simp [parseOperand, hk]
    · simp [Operand.ofSyntax, readNumber_numeral h htext]
  | var n line =>
    obtain ⟨t, r, rfl, hk, htext, hr⟩ := map_lex_eq_cons.1 hts
    obtain rfl := List.map_eq_nil_iff.1 hr
    refine ⟨.name t, fun post e l hdot => ?_, .var n t.line, ?_, rfl⟩
    · simp [parseOperand, hk, Cursor.accept_mk_of_ne hdot]
    · simp [Operand.ofSyntax, htext]
  | member m =>
    obtain ⟨t₁, t₂, t₃, rfl, hk₁, hk₂, hk₃, -, hm⟩ := Member.tokens_of_lexemes hts
    refine ⟨.member t₁ t₃, fun post e l _ => ?_, .member (Member.ofTokens t₁ t₃), rfl, ?_⟩
    · simp [parseOperand, hk₁, Cursor.accept_mk_cons hk₂, hk₃]
    · simp [Operand.unlined, hm]

theorem nextKind_append_of_map_lex {ts : List Token} {x : Lexeme} {ls : List Lexeme}
    (h : ts.map lex = x :: ls) (post : List Token) : nextKind (ts ++ post) = x.1 := by
  obtain ⟨t, r, rfl, hk, -, -⟩ := map_lex_eq_cons.1 h
  exact hk

/-- The steps of arithmetic are read back from their tokens, when neither an
operator nor a dot follows them. -/
theorem parseSteps_written : ∀ {steps : List (Operator × Operand)} {ts : List Token}
    (acc : List (Token × Syntax.Operand)), (∀ s ∈ steps, s.2.WellFormed) →
    ts.map lex = stepLexemes steps →
    ∃ ss, Reads (fun c => parseSteps c acc)
        (fun post => nextKind post ≠ .arithOp ∧ nextKind post ≠ .dot) ts (some (acc ++ ss)) ∧
      List.Forall₂ (Builds stepOfSyntax stepUnlined) ss steps
  | [], ts, acc, _, hts => by
    obtain rfl : ts = [] := List.map_eq_nil_iff.1 hts
    refine ⟨[], fun post e l hpost => ?_, .nil⟩
    dsimp only
    rw [parseSteps]
    simp [hpost.1]
  | (op, o) :: steps, ts, acc, h, hts => by
    simp only [stepLexemes, List.flatMap_cons, List.cons_append] at hts
    obtain ⟨t, r, rfl, hk, htext, hr⟩ := map_lex_eq_cons.1 hts
    obtain ⟨tso, tsr, rfl, hso, hsr⟩ := List.map_eq_append_iff.1 hr
    obtain ⟨o', hread, o'', hbuild, hu⟩ := Operand.parse_written (h _ List.mem_cons_self) hso
    obtain ⟨ss, hss, hforall⟩ := parseSteps_written (acc ++ [(t, o')])
      (fun s hs => h s (List.mem_cons_of_mem _ hs)) hsr
    refine ⟨(t, o') :: ss, fun post e l hpost => ?_,
      .cons ⟨(op, o''), by simp [stepOfSyntax, hbuild, ofToken_symbol htext], by simp [stepUnlined, hu]⟩
        hforall⟩
    -- the operand is followed by the next step's operator, or by what follows the steps
    have hnext : nextKind (tsr ++ post) ≠ .dot := by
      cases steps with
      | nil =>
        obtain rfl : tsr = [] := List.map_eq_nil_iff.1 hsr
        exact hpost.2
      | cons s steps =>
        rw [nextKind_append_of_map_lex (by simpa [stepLexemes] using hsr)]
        simp
    dsimp only
    rw [parseSteps]
    -- the other branch, where the steps read nothing, is ruled out by the lengths
    simp +arith [hk, hread _ e l hnext, hss post e l hpost]

/-- An operand starts with a number or a name. -/
theorem Operand.nextKind_written {o : Operand} {ts : List Token} (h : ts.map lex = o.lexemes)
    (post : List Token) :
    nextKind (ts ++ post) = .number ∨ nextKind (ts ++ post) = .identifier := by
  cases o with
  | num => exact Or.inl (nextKind_append_of_map_lex h post)
  | var => exact Or.inr (nextKind_append_of_map_lex h post)
  | member => exact Or.inr (nextKind_append_of_map_lex h post)

/-- A value is read back from its tokens when a comma, a closing bracket or
parenthesis, a line end or `AS` follows them. -/
theorem Scalar.parse_written {s : Scalar} (h : s.WellFormed) {ts : List Token}
    (hts : ts.map lex = s.lexemes) :
    ∃ t, Reads parseScalar AfterValue ts (some t) ∧ Builds Scalar.ofSyntax Scalar.unlined t s := by
  cases s with
  | str str =>
    obtain ⟨t, r, rfl, hk, htext, hr⟩ := map_lex_eq_cons.1 hts
    obtain rfl := List.map_eq_nil_iff.1 hr
    refine ⟨.string t, fun post e l _ => ?_, .str str, ?_, rfl⟩
    · simp [parseScalar, hk]
    · simp [Scalar.ofSyntax, htext, unquote_quoted]
  | num n =>
    obtain ⟨t, r, rfl, hk, htext, hr⟩ := map_lex_eq_cons.1 hts
    obtain rfl := List.map_eq_nil_iff.1 hr
    refine ⟨.number t, fun post e l hpost => ?_, .num n, ?_, rfl⟩
    · simp [parseScalar, parseOperand, hk, hpost.ne (k := .arithOp) rfl]
    · simp [Scalar.ofSyntax, readNumber_numeral h htext]
  | bool b =>
    obtain ⟨t, r, rfl, hk, htext, hr⟩ := map_lex_eq_cons.1 hts
    obtain rfl := List.map_eq_nil_iff.1 hr
    refine ⟨.boolean t, fun post e l _ => ?_, .bool b, ?_, rfl⟩
    · simp [parseScalar, hk]
    · simp [Scalar.ofSyntax, htext, toString_beq_true]
  | var n line =>
    obtain ⟨t, r, rfl, hk, htext, hr⟩ := map_lex_eq_cons.1 hts
    obtain rfl := List.map_eq_nil_iff.1 hr
    refine ⟨.name t, fun post e l hpost => ?_, .var n t.line, ?_, rfl⟩
    · simp [parseScalar, parseOperand, hk, Cursor.accept_mk_of_ne (hpost.ne (k := .dot) rfl),
        hpost.ne (k := .arithOp) rfl]
    · simp [Scalar.ofSyntax, htext]
  | arith first steps =>
    obtain ⟨hfirst, hne, hsteps⟩ := h
    obtain ⟨tsf, tss, rfl, hsf, hss⟩ := List.map_eq_append_iff.1 hts
    obtain ⟨f', hread, f'', hbuild, hu⟩ := Operand.parse_written hfirst hsf
    obtain ⟨ss, hsread, hforall⟩ := parseSteps_written [] hsteps hss
    obtain ⟨ss', hss', hsu⟩ := Builds.mapM hforall
    -- the first operator follows the first operand
    have hop : ∀ post, nextKind (tss ++ post) = .arithOp := by
      obtain ⟨s, rest, hcons⟩ := List.exists_cons_of_ne_nil hne
      intro post
      exact nextKind_append_of_map_lex (by simpa [stepLexemes, hcons] using hss) post
    refine ⟨.arith f' ss, fun post e l hpost => ?_, .arith f'' ss', ?_, ?_⟩
    · have hread' := hread (tss ++ post) e l (by simp [hop])
      have hsread' := hsread post e l ⟨hpost.ne rfl, hpost.ne rfl⟩
      rcases Operand.nextKind_written hsf (tss ++ post) with hkind | hkind <;>
        simp_all [parseScalar]
    · simp [Scalar.ofSyntax_arith_of_steps hss', hbuild]
    · simp only [Scalar.unlined, hu]
      exact congrArg _ hsu

/-- After the first token of a written scalar, when that is a name: a dot, and
an operator three tokens on (a member opening arithmetic); or an operator; or
what follows the scalar. -/
theorem Scalar.afterName_written {s : Scalar} (h : s.WellFormed) {ts post : List Token}
    (hts : ts.map lex = s.lexemes) (hpost : AfterValue post)
    (hk : nextKind (ts ++ post) = .identifier) :
    (nextKind (ts ++ post).tail = .dot ∧ nextKind ((ts ++ post).drop 3) = .arithOp) ∨
      nextKind (ts ++ post).tail = .arithOp ∨ AfterValue (ts ++ post).tail := by
  cases s with
  | arith first steps =>
    obtain ⟨tsf, tss, rfl, hsf, hss⟩ := List.map_eq_append_iff.1 hts
    obtain ⟨s₀, rest, rfl⟩ := List.exists_cons_of_ne_nil h.2.1
    have hop : nextKind (tss ++ post) = .arithOp :=
      nextKind_append_of_map_lex (by simpa [stepLexemes] using hss) post
    cases first with
    | num n =>
      obtain ⟨t, r, rfl, hk', -, -⟩ := map_lex_eq_cons.1 hsf
      simp [hk'] at hk
    | var n line =>
      obtain ⟨t, r, rfl, -, -, hr⟩ := map_lex_eq_cons.1 hsf
      obtain rfl := List.map_eq_nil_iff.1 hr
      simp [hop]
    | member m =>
      obtain ⟨t₁, t₂, t₃, rfl, -, hk₂, -, -, -⟩ := Member.tokens_of_lexemes hsf
      simp [hop, hk₂]
  | var n line =>
    obtain ⟨t, r, rfl, -, -, hr⟩ := map_lex_eq_cons.1 hts
    obtain rfl := List.map_eq_nil_iff.1 hr
    simp [hpost]
  | str | num | bool =>
    obtain ⟨t, r, rfl, hk', -, -⟩ := map_lex_eq_cons.1 hts
    simp [hk'] at hk

/-- A written scalar is not read as a member argument `X.y`: in arithmetic a
member is followed by an operator. -/
theorem Scalar.not_memberArg {s : Scalar} (h : s.WellFormed) {ts post : List Token}
    (hts : ts.map lex = s.lexemes) (hpost : AfterValue post) (e : List ParseError) (l : Nat) :
    ((Cursor.mk (ts ++ post) e l).check .identifier &&
      (Cursor.mk (ts ++ post) e l).checkAt 1 .dot &&
      (Cursor.mk (ts ++ post) e l).checkAt 2 .identifier &&
      !(Cursor.mk (ts ++ post) e l).checkAt 3 .arithOp) = false := by
  simp only [Cursor.checkAt_mk, Cursor.check_mk]
  by_cases hk : nextKind (ts ++ post) = .identifier
  · rcases Scalar.afterName_written h hts hpost hk with ⟨-, h₃⟩ | h₁ | h₁
    · simp [h₃]
    · simp [h₁]
    · simp [h₁.ne (k := .dot) rfl]
  · simp [hk]

/-- A call argument is read back from its tokens when a comma or a closing
parenthesis follows them. -/
theorem Arg.parse_written {a : Arg} (h : a.WellFormed) {ts : List Token}
    (hts : ts.map lex = a.lexemes) :
    ∃ t, Reads parseArg AfterValue ts (some t) ∧ Builds Arg.ofSyntax Arg.unlined t a := by
  cases a with
  | member m =>
    obtain ⟨t₁, t₂, t₃, rfl, hk₁, hk₂, hk₃, htext₃, hm⟩ := Member.tokens_of_lexemes hts
    refine ⟨.member t₁ t₃, fun post e l hpost => ?_, .member (Member.ofTokens t₁ t₃), rfl, ?_⟩
    · simp [parseArg, hk₁, hk₂, hk₃, htext₃, h.2, Cursor.checkAt_mk,
        hpost.ne (k := .arithOp) rfl]
    · simp [Arg.unlined, hm]
  | view n =>
    obtain ⟨t₁, r₁, rfl, hk₁, htext₁, hr₁⟩ := map_lex_eq_cons.1 hts
    obtain ⟨t₂, r₂, rfl, hk₂, -, hr₂⟩ := map_lex_eq_cons.1 hr₁
    obtain ⟨t₃, r₃, rfl, hk₃, htext₃, hr₃⟩ := map_lex_eq_cons.1 hr₂
    obtain rfl := List.map_eq_nil_iff.1 hr₃
    refine ⟨.view t₁, fun post e l hpost => ?_, .view n, by simp [Arg.ofSyntax, htext₁], rfl⟩
    simp [parseArg, hk₁, hk₂, hk₃, htext₃, Cursor.checkAt_mk, hpost.ne (k := .arithOp) rfl]
  | scalar s =>
    obtain ⟨t, hread, s', hbuild, hu⟩ := Scalar.parse_written h hts
    refine ⟨.value t, fun post e l hpost => ?_, .scalar s', by simp [Arg.ofSyntax, hbuild],
      by simp [Arg.unlined, hu]⟩
    unfold parseArg
    simp only [Scalar.not_memberArg h hts hpost, hread post e l hpost]
    rfl

theorem Scalar.startsValue_written {s : Scalar} {ts : List Token} (hts : ts.map lex = s.lexemes)
    (post : List Token) : startsValue (nextKind (ts ++ post)) = true := by
  cases s with
  | arith first steps =>
    obtain ⟨tsf, tss, rfl, hsf, -⟩ := List.map_eq_append_iff.1 hts
    rw [List.append_assoc]
    rcases Operand.nextKind_written hsf (tss ++ post) with hk | hk <;> simp [hk, startsValue]
  | _ => simp [nextKind_append_of_map_lex hts, startsValue]

theorem Arg.startsValue_written {a : Arg} {ts : List Token} (hts : ts.map lex = a.lexemes)
    (post : List Token) : startsValue (nextKind (ts ++ post)) = true := by
  cases a with
  | scalar s => exact Scalar.startsValue_written hts post
  | _ => simp [nextKind_append_of_map_lex hts, startsValue]

theorem ne_of_startsValue {k k' : TokenKind} (h : startsValue k = true) (h' : startsValue k' = false) :
    k ≠ k' := by
  rintro rfl
  rw [h] at h'
  cases h'

/-- The tokens of parts joined by commas and then closed: the tokens of the
first part, then either the closing tokens or a comma and the rest. -/
theorem tokens_commaList {ts : List Token} {l : List Lexeme} {ls : List (List Lexeme)}
    {close : List Lexeme} (h : ts.map lex = comma.intercalate (l :: ls) ++ close) :
    ∃ tsl rest, ts = tsl ++ rest ∧ tsl.map lex = l ∧
      ((ls = [] ∧ rest.map lex = close) ∨
        ∃ t r, rest = t :: r ∧ t.kind = .comma ∧ ls ≠ [] ∧
          r.map lex = comma.intercalate ls ++ close) := by
  cases ls with
  | nil =>
    rw [List.intercalate_singleton] at h
    obtain ⟨tsl, rest, rfl, hl, hr⟩ := List.map_eq_append_iff.1 h
    exact ⟨tsl, rest, rfl, hl, Or.inl ⟨rfl, hr⟩⟩
  | cons l' ls =>
    rw [List.intercalate_cons_cons] at h
    simp only [List.append_assoc, comma, List.cons_append, List.nil_append] at h
    obtain ⟨tsl, rest, rfl, hl, hr⟩ := List.map_eq_append_iff.1 h
    obtain ⟨t, r, rfl, hk, -, hr'⟩ := map_lex_eq_cons.1 hr
    exact ⟨tsl, t :: r, rfl, hl, Or.inr ⟨t, r, rfl, hk, List.cons_ne_nil _ _, hr'⟩⟩

/-- Parts joined by commas start with a value when each part does. -/
theorem startsValue_commaList {α : Type} {f : α → List Lexeme}
    (hf : ∀ x ts, ts.map lex = f x → ∀ post, startsValue (nextKind (ts ++ post)) = true)
    {xs : List α} (hne : xs ≠ []) {r : List Token} {close : List Lexeme}
    (hr : r.map lex = comma.intercalate (xs.map f) ++ close) (post : List Token) :
    startsValue (nextKind (r ++ post)) = true := by
  obtain ⟨x, rest, rfl⟩ := List.exists_cons_of_ne_nil hne
  obtain ⟨tsx, -, rfl, hx, -⟩ := tokens_commaList hr
  rw [List.append_assoc]
  exact hf x tsx hx _

/-- The arguments of a call are read back through the closing parenthesis,
after the arguments `acc` read before them. -/
theorem parseArgs_written (fn : Token) : ∀ {args : List Arg} {ts : List Token}
    (acc : List Syntax.Arg), args ≠ [] → (∀ a ∈ args, a.WellFormed) →
    ts.map lex = comma.intercalate (args.map Arg.lexemes) ++ [(.rparen, ")")] →
    ∃ as, Reads (fun c => parseArgs fn c acc) (fun _ => True) ts (some (acc ++ as)) ∧
      List.Forall₂ (Builds Arg.ofSyntax Arg.unlined) as args
  | [], _, _, hne, _, _ => absurd rfl hne
  | a :: rest, ts, acc, _, h, hts => by
    obtain ⟨tsa, tsr, rfl, ha, hnext⟩ := tokens_commaList hts
    obtain ⟨a', hread, hb⟩ := Arg.parse_written (h a List.mem_cons_self) ha
    rcases hnext with ⟨hnil, hr⟩ | ⟨t, r, rfl, hk, hne, hr⟩
    · -- the last argument, then the closing parenthesis
      obtain rfl : rest = [] := List.map_eq_nil_iff.1 hnil
      obtain ⟨t, r, rfl, hk, -, hr'⟩ := map_lex_eq_cons.1 hr
      obtain rfl := List.map_eq_nil_iff.1 hr'
      refine ⟨[a'], fun post e l _ => ?_, .cons hb .nil⟩
      have hread' := hread (t :: post) e l (by simp [AfterValue, hk, endsValue])
      dsimp only
      rw [parseArgs]
      simp [hread', hk]
    · -- a comma, then the other arguments
      obtain ⟨as, hrest, hforall⟩ := parseArgs_written fn (acc ++ [a']) (by simpa using hne)
        (fun x hx => h x (List.mem_cons_of_mem _ hx)) hr
      refine ⟨a' :: as, fun post e l hpost => ?_, .cons hb hforall⟩
      have hread' := hread (t :: (r ++ post)) e l (by simp [AfterValue, hk, endsValue])
      dsimp only
      rw [parseArgs]
      simp [hread', hk, hrest post e l hpost]
      intro hle
      omega

/-- A call is read back from its tokens. -/
theorem Call.parse_written {c : Call} (h : c.WellFormed) {ts : List Token}
    (hts : ts.map lex = c.lexemes) :
    ∃ t, Reads parseCall (fun _ => True) ts (some t) ∧ Builds Call.ofSyntax Call.unlined t c := by
  obtain ⟨kind, name, args⟩ := c
  obtain ⟨-, hkind, hargs⟩ := h
  obtain ⟨tn, r, rfl, hkn, htn, hr⟩ := map_lex_eq_cons.1 hts
  obtain ⟨tp, r', rfl, hkp, -, hr'⟩ := map_lex_eq_cons.1 hr
  dsimp only at hkind htn hargs hr'
  subst hkind
  cases args with
  | nil =>
    obtain ⟨tc, r'', rfl, hkc, -, hr''⟩ := map_lex_eq_cons.1 hr'
    obtain rfl := List.map_eq_nil_iff.1 hr''
    refine ⟨⟨tn, []⟩, fun post e l _ => ?_, ⟨FunctionKind.ofName name, name, []⟩, ?_, rfl⟩
    · simp [parseCall, hkn, hkp, Cursor.accept_mk_cons hkc]
    · simp [Call.ofSyntax, htn]
  | cons a rest =>
    obtain ⟨as, hread, hforall⟩ := parseArgs_written tn [] (List.cons_ne_nil _ _) hargs hr'
    obtain ⟨as', has', hu⟩ := Builds.mapM hforall
    refine ⟨⟨tn, as⟩, fun post e l _ => ?_, ⟨FunctionKind.ofName name, name, as'⟩, ?_, ?_⟩
    · -- the first argument is no closing parenthesis
      have hstart : nextKind (r' ++ post) ≠ .rparen :=
        ne_of_startsValue (startsValue_commaList (fun _ _ h => Arg.startsValue_written h)
          (List.cons_ne_nil _ _) hr' post) rfl
      simp [parseCall, hkn, hkp, Cursor.accept_mk_of_ne hstart, hread post e l trivial]
    · simp [Call.ofSyntax, has', htn]
    · simp [Call.unlined, hu]

theorem Call.startsValue_written {c : Call} {ts : List Token} (hts : ts.map lex = c.lexemes)
    (post : List Token) : startsValue (nextKind (ts ++ post)) = true := by
  simp [nextKind_append_of_map_lex hts, startsValue]

/-- On the tokens of a call the test for a call holds. -/
theorem Call.atCall_written {c : Call} {ts : List Token} (hts : ts.map lex = c.lexemes)
    (post : List Token) (e : List ParseError) (l : Nat) :
    (Cursor.mk (ts ++ post) e l).atCall = true := by
  obtain ⟨t₁, r₁, rfl, hk₁, -, hr₁⟩ := map_lex_eq_cons.1 hts
  obtain ⟨t₂, r₂, rfl, hk₂, -, -⟩ := map_lex_eq_cons.1 hr₁
  simp [Cursor.atCall, Cursor.checkAt_mk, hk₁, hk₂]

/-- On the tokens of a value the test for a call fails: a value that starts with
a name goes on with a dot, an operator, or what follows values. -/
theorem Scalar.not_atCall {s : Scalar} (h : s.WellFormed) {ts post : List Token}
    (hts : ts.map lex = s.lexemes) (hpost : AfterValue post) (e : List ParseError) (l : Nat) :
    (Cursor.mk (ts ++ post) e l).atCall = false := by
  simp only [Cursor.atCall, Cursor.checkAt_mk, Cursor.check_mk]
  by_cases hk : nextKind (ts ++ post) = .identifier
  · rcases Scalar.afterName_written h hts hpost hk with ⟨h₁, -⟩ | h₁ | h₁
    · simp [h₁]
    · simp [h₁]
    · simp [h₁.ne (k := .lparen) rfl]
  · simp [hk]

/-! ## Reading lists -/

/-- The items of a list of values are read back through the closing bracket,
after the values `vs` read before them. -/
theorem parseItems_values : ∀ {items : List Scalar} {ts : List Token} (vs : List Syntax.Scalar),
    items ≠ [] → (∀ s ∈ items, s.WellFormed) →
    ts.map lex = comma.intercalate (items.map Scalar.lexemes) ++ [(.rbracket, "]")] →
    ∃ ss, Reads (fun c => parseItems c vs []) (fun _ => True) ts (some (.values (vs ++ ss))) ∧
      List.Forall₂ (Builds Scalar.ofSyntax Scalar.unlined) ss items
  | [], _, _, hne, _, _ => absurd rfl hne
  | s :: rest, ts, vs, _, h, hts => by
    obtain ⟨tss, tsr, rfl, hs, hnext⟩ := tokens_commaList hts
    obtain ⟨s', hread, hb⟩ := Scalar.parse_written (h s List.mem_cons_self) hs
    rcases hnext with ⟨hnil, hr⟩ | ⟨t, r, rfl, hk, hne, hr⟩
    · -- the last value, then the closing bracket
      obtain rfl : rest = [] := List.map_eq_nil_iff.1 hnil
      obtain ⟨t, r, rfl, hk, -, hr'⟩ := map_lex_eq_cons.1 hr
      obtain rfl := List.map_eq_nil_iff.1 hr'
      refine ⟨[s'], fun post e l _ => ?_, .cons hb .nil⟩
      have hpost : AfterValue (t :: post) := by simp [AfterValue, hk, endsValue]
      dsimp only
      rw [parseItems]
      simp [Scalar.not_atCall (h s List.mem_cons_self) hs hpost, hread _ e l hpost, hk]
    · -- a comma, then the next value, which is no closing bracket
      have hne' : rest ≠ [] := by simpa using hne
      obtain ⟨ss, hrest, hforall⟩ := parseItems_values (vs ++ [s']) hne'
        (fun x hx => h x (List.mem_cons_of_mem _ hx)) hr
      refine ⟨s' :: ss, fun post e l hpost => ?_, .cons hb hforall⟩
      have hpost' : AfterValue (t :: (r ++ post)) := by simp [AfterValue, hk, endsValue]
      have hstart : nextKind (r ++ post) ≠ .rbracket :=
        ne_of_startsValue (startsValue_commaList (fun _ _ h => Scalar.startsValue_written h)
          hne' hr post) rfl
      dsimp only
      rw [parseItems]
      simp [Scalar.not_atCall (h s List.mem_cons_self) hs hpost', hread _ e l hpost', hk, hstart,
        hrest post e l hpost]
      intro hle
      omega

/-- The items of a list of calls are read back through the closing bracket,
after the calls `fs` read before them. -/
theorem parseItems_calls : ∀ {items : List Call} {ts : List Token} (fs : List Syntax.Call),
    items ≠ [] → (∀ c ∈ items, c.WellFormed) →
    ts.map lex = comma.intercalate (items.map Call.lexemes) ++ [(.rbracket, "]")] →
    ∃ cs, Reads (fun c => parseItems c [] fs) (fun _ => True) ts (some (.calls (fs ++ cs))) ∧
      List.Forall₂ (Builds Call.ofSyntax Call.unlined) cs items
  | [], _, _, hne, _, _ => absurd rfl hne
  | c :: rest, ts, fs, _, h, hts => by
    obtain ⟨tsc, tsr, rfl, hc, hnext⟩ := tokens_commaList hts
    obtain ⟨c', hread, hb⟩ := Call.parse_written (h c List.mem_cons_self) hc
    rcases hnext with ⟨hnil, hr⟩ | ⟨t, r, rfl, hk, hne, hr⟩
    · -- the last call, then the closing bracket
      obtain rfl : rest = [] := List.map_eq_nil_iff.1 hnil
      obtain ⟨t, r, rfl, hk, -, hr'⟩ := map_lex_eq_cons.1 hr
      obtain rfl := List.map_eq_nil_iff.1 hr'
      refine ⟨[c'], fun post e l _ => ?_, .cons hb .nil⟩
      dsimp only
      rw [parseItems]
      simp [Call.atCall_written hc, hread _ e l trivial, hk]
    · -- a comma, then the next call, which is no closing bracket
      have hne' : rest ≠ [] := by simpa using hne
      obtain ⟨cs, hrest, hforall⟩ := parseItems_calls (fs ++ [c']) hne'
        (fun x hx => h x (List.mem_cons_of_mem _ hx)) hr
      refine ⟨c' :: cs, fun post e l hpost => ?_, .cons hb hforall⟩
      have hstart : nextKind (r ++ post) ≠ .rbracket :=
        ne_of_startsValue (startsValue_commaList (fun _ _ h => Call.startsValue_written h)
          hne' hr post) rfl
      dsimp only
      rw [parseItems]
      simp [Call.atCall_written hc, hread _ e l trivial, hk, hstart, hrest post e l hpost]
      intro hle
      omega

/-- A list of values is read back from its tokens. -/
theorem parseList_values {items : List Scalar} (hne : items ≠ []) (h : ∀ s ∈ items, s.WellFormed)
    {ts : List Token} (hts : ts.map lex = (Value.list items).lexemes) :
    ∃ t, Reads parseList (fun _ => True) ts (some t) ∧
      Builds Value.ofItems Value.unlined t (.list items) := by
  obtain ⟨tb, r, rfl, hkb, -, hr⟩ := map_lex_eq_cons.1 hts
  obtain ⟨ss, hread, hforall⟩ := parseItems_values [] hne h hr
  obtain ⟨ss', hss', hu⟩ := Builds.mapM hforall
  have hss : ss ≠ [] := fun hnil => hne (List.forall₂_nil_left_iff.1 (hnil ▸ hforall))
  refine ⟨.values ss, fun post e l _ => ?_, .list ss', by simp [Value.ofItems, hss, hss'],
    by simp [Value.unlined, hu]⟩
  -- a list has an item, so no closing bracket follows the opening one
  have hstart : nextKind (r ++ post) ≠ .rbracket :=
    ne_of_startsValue (startsValue_commaList (fun _ _ h => Scalar.startsValue_written h)
      hne hr post) rfl
  simp [parseList, hkb, hstart, hread post e l trivial]

/-- A list of calls is read back from its tokens. -/
theorem parseList_calls {items : List Call} (hne : items ≠ []) (h : ∀ c ∈ items, c.WellFormed)
    {ts : List Token} (hts : ts.map lex = (Value.calls items).lexemes) :
    ∃ t, Reads parseList (fun _ => True) ts (some t) ∧
      Builds Value.ofItems Value.unlined t (.calls items) := by
  obtain ⟨tb, r, rfl, hkb, -, hr⟩ := map_lex_eq_cons.1 hts
  obtain ⟨cs, hread, hforall⟩ := parseItems_calls [] hne h hr
  obtain ⟨cs', hcs', hu⟩ := Builds.mapM hforall
  have hcs : cs ≠ [] := fun hnil => hne (List.forall₂_nil_left_iff.1 (hnil ▸ hforall))
  refine ⟨.calls cs, fun post e l _ => ?_, .calls cs', by simp [Value.ofItems, hcs, hcs'],
    by simp [Value.unlined, hu]⟩
  have hstart : nextKind (r ++ post) ≠ .rbracket :=
    ne_of_startsValue (startsValue_commaList (fun _ _ h => Call.startsValue_written h)
      hne hr post) rfl
  simp [parseList, hkb, hstart, hread post e l trivial]

/-! ## Reading the right side of a line and the settings of an instance -/

/-- The value of a property line is read back from its tokens when a line end
follows them. -/
theorem Value.parseRhs_written {v : Value} (h : v.WellFormed) {ts : List Token}
    (hts : ts.map lex = v.lexemes) :
    ∃ t, Reads parseRhs AfterValue ts (some t) ∧ Builds Value.ofRhs Value.unlined t v := by
  cases v with
  | scalar s =>
    obtain ⟨t, hread, s', hb, hu⟩ := Scalar.parse_written h hts
    refine ⟨.value t, fun post e l hpost => ?_, .scalar s', by simp [Value.ofRhs, hb],
      by simp [Value.unlined, hu]⟩
    have hstart : nextKind (ts ++ post) ≠ .lbracket :=
      ne_of_startsValue (Scalar.startsValue_written hts post) rfl
    simp [parseRhs, hstart, Scalar.not_atCall h hts hpost, hread post e l hpost]
  | list items =>
    obtain ⟨t, hread, v', hb, hu⟩ := parseList_values h.1 h.2 hts
    refine ⟨.list t, fun post e l _ => ?_, v', by simp [Value.ofRhs, hb], hu⟩
    simp [parseRhs, nextKind_append_of_map_lex hts post, hread post e l trivial]
  | calls items =>
    obtain ⟨t, hread, v', hb, hu⟩ := parseList_calls h.1 h.2 hts
    refine ⟨.list t, fun post e l _ => ?_, v', by simp [Value.ofRhs, hb], hu⟩
    simp [parseRhs, nextKind_append_of_map_lex hts post, hread post e l trivial]
  | call c =>
    obtain ⟨t, hread, c', hb, hu⟩ := Call.parse_written h hts
    refine ⟨.call t, fun post e l _ => ?_, .call c', by simp [Value.ofRhs, hb],
      by simp [Value.unlined, hu]⟩
    have hstart : nextKind (ts ++ post) ≠ .lbracket :=
      ne_of_startsValue (Call.startsValue_written hts post) rfl
    simp [parseRhs, hstart, Call.atCall_written hts, hread post e l trivial]

/-- A setting `name = value` is read back from its tokens; a lone call is no
setting. -/
theorem parseSetting_written {a : String × Value}
    (h : IsName a.1 ∧ a.2.WellFormed ∧ a.2.isCall = false) {ts : List Token}
    (hts : ts.map lex = (.identifier, a.1) :: (.equals, "=") :: a.2.lexemes) :
    ∃ t, Reads parseSetting AfterValue ts (some t) ∧ Builds settingOfSyntax settingUnlined t a := by
  obtain ⟨n, v⟩ := a
  obtain ⟨-, hv, hcall⟩ := h
  obtain ⟨tn, r, rfl, hkn, htn, hr⟩ := map_lex_eq_cons.1 hts
  obtain ⟨te, r', rfl, hke, -, hr'⟩ := map_lex_eq_cons.1 hr
  cases v with
  | scalar s =>
    obtain ⟨t, hread, s', hb, hu⟩ := Scalar.parse_written hv hr'
    refine ⟨(tn, .value t), fun post e l hpost => ?_, (n, .scalar s'),
      by simp [settingOfSyntax, Value.ofSetting, hb, htn], by simp [settingUnlined, Value.unlined, hu]⟩
    have hstart : nextKind (r' ++ post) ≠ .lbracket :=
      ne_of_startsValue (Scalar.startsValue_written hr' post) rfl
    simp [parseSetting, hkn, hke, hstart, hread post e l hpost]
  | list items =>
    obtain ⟨t, hread, v', hb, hu⟩ := parseList_values hv.1 hv.2 hr'
    refine ⟨(tn, .list t), fun post e l _ => ?_, (n, v'),
      by simp [settingOfSyntax, Value.ofSetting, hb, htn], by simp [settingUnlined, hu]⟩
    simp [parseSetting, hkn, hke, nextKind_append_of_map_lex hr' post, hread post e l trivial]
  | calls items =>
    obtain ⟨t, hread, v', hb, hu⟩ := parseList_calls hv.1 hv.2 hr'
    refine ⟨(tn, .list t), fun post e l _ => ?_, (n, v'),
      by simp [settingOfSyntax, Value.ofSetting, hb, htn], by simp [settingUnlined, hu]⟩
    simp [parseSetting, hkn, hke, nextKind_append_of_map_lex hr' post, hread post e l trivial]
  | call c => simp [Value.isCall] at hcall

theorem atAssignment_of_map_lex {ts : List Token} {n : String} {ls : List Lexeme}
    (h : ts.map lex = (.identifier, n) :: (.equals, "=") :: ls) (post : List Token)
    (e : List ParseError) (l : Nat) : (Cursor.mk (ts ++ post) e l).atAssignment = true := by
  obtain ⟨t₁, r₁, rfl, hk₁, -, hr₁⟩ := map_lex_eq_cons.1 h
  obtain ⟨t₂, r₂, rfl, hk₂, -, -⟩ := map_lex_eq_cons.1 hr₁
  simp [Cursor.atAssignment, Cursor.checkAt_mk, hk₁, hk₂]

/-- The settings of an instance are read back from their tokens when `AS` or a
line end follows them, after the settings `acc` read before them. -/
theorem parseSettings_written : ∀ {args : List (String × Value)} {ts : List Token}
    (acc : List (Token × Setting)), args ≠ [] →
    (∀ a ∈ args, IsName a.1 ∧ a.2.WellFormed ∧ a.2.isCall = false) →
    ts.map lex = comma.intercalate
      (args.map fun a => (.identifier, a.1) :: (.equals, "=") :: a.2.lexemes) →
    ∃ ss, Reads (fun c => parseSettings c acc) AfterInstance ts (some (acc ++ ss)) ∧
      List.Forall₂ (Builds settingOfSyntax settingUnlined) ss args
  | [], _, _, hne, _, _ => absurd rfl hne
  | a :: rest, ts, acc, _, h, hts => by
    have hts' : ts.map lex = comma.intercalate
        ((a :: rest).map fun a => (.identifier, a.1) :: (.equals, "=") :: a.2.lexemes) ++ [] := by
      rw [List.append_nil]
      exact hts
    obtain ⟨tsa, tsr, rfl, ha, hnext⟩ := tokens_commaList hts'
    obtain ⟨s, hread, hb⟩ := parseSetting_written (h a List.mem_cons_self) ha
    rcases hnext with ⟨hnil, hr⟩ | ⟨t, r, rfl, hk, hne, hr⟩
    · -- the last setting, then what follows the instance
      obtain rfl : rest = [] := List.map_eq_nil_iff.1 hnil
      obtain rfl := List.map_eq_nil_iff.1 hr
      refine ⟨[s], fun post e l hpost => ?_, .cons hb .nil⟩
      have hcomma : nextKind post ≠ .comma := by
        rcases hpost with h | h <;> simp [h]
      dsimp only
      rw [parseSettings]
      simp [atAssignment_of_map_lex ha, hread post e l hpost.afterValue, hcomma]
    · -- a comma, then the next setting
      obtain ⟨ss, hrest, hforall⟩ := parseSettings_written (acc ++ [s]) (by simpa using hne)
        (fun x hx => h x (List.mem_cons_of_mem _ hx)) (by simpa using hr)
      refine ⟨s :: ss, fun post e l hpost => ?_, .cons hb hforall⟩
      have hread' := hread (t :: (r ++ post)) e l (by simp [AfterValue, hk, endsValue])
      dsimp only
      rw [parseSettings]
      simp [atAssignment_of_map_lex ha, hread', hk, hrest post e l hpost]
      intro hle
      omega

/-- An instance is read back from its tokens when `AS` or a line end follows
them. -/
theorem Instance.parse_written {i : Instance} (h : i.WellFormed) {ts : List Token}
    (hts : ts.map lex = i.lexemes) :
    ∃ t, Reads parseInstance AfterInstance ts (some t) ∧
      Builds Instance.ofSyntax Instance.unlined t i := by
  obtain ⟨name, line, args⟩ := i
  obtain ⟨-, hargs⟩ := h
  obtain ⟨tn, r, rfl, hkn, htn, hr⟩ := map_lex_eq_cons.1 hts
  cases args with
  | nil =>
    obtain rfl : r = [] := by simpa [Instance.lexemes] using hr
    refine ⟨⟨tn, []⟩, fun post e l hpost => ?_, ⟨name, tn.line, []⟩, by simp [Instance.ofSyntax, htn],
      rfl⟩
    have hwith : nextKind post ≠ .withKw := by
      rcases hpost with h | h <;> simp [h]
    simp [parseInstance, hkn, hwith]
  | cons a rest =>
    simp only [List.isEmpty_cons] at hr
    obtain ⟨tw, r', rfl, hkw, -, hr'⟩ := map_lex_eq_cons.1 hr
    obtain ⟨ss, hread, hforall⟩ := parseSettings_written [] (List.cons_ne_nil _ _) hargs hr'
    obtain ⟨ss', hss', hu⟩ := Builds.mapM hforall
    refine ⟨⟨tn, ss⟩, fun post e l hpost => ?_, ⟨name, tn.line, ss'⟩,
      by simp [Instance.ofSyntax_eq, hss', htn], ?_⟩
    · simp [parseInstance, hkn, hkw, hread post e l hpost]
    · simp only [Instance.unlined]
      exact congrArg _ hu

end UiLang
