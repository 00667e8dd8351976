import UiLang.Proofs.ParseWritten

/-!
# Reading written programs back

A well-formed definition section, written out as text, loads back into itself
up to line numbers (`Definition.load_print`), and so does a well-formed view
(`View.load_print`). Scanning gives back the lexemes the text was written from
(`Definition.scan_print`); the parser reads them line by line, each statement
through the readings of its values, and records no error; and the builder makes
from the trees the parts the text was written from.

The names a component reads do not depend on line numbers, so neither do the
parameters the builder infers (`inferParams_unlined`).
-/

namespace UiLang

open Token Syntax

/-! ## Names read, without line numbers -/

theorem Operand.uses_unlined (o : Operand) : o.unlined.uses.map Prod.fst = o.uses.map Prod.fst := by
  cases o <;> rfl

theorem Scalar.uses_unlined (s : Scalar) : s.unlined.uses.map Prod.fst = s.uses.map Prod.fst := by
  cases s with
  | arith first steps =>
    simp [Scalar.unlined, Scalar.uses, List.map_flatMap, List.flatMap_map, Operand.uses_unlined]
  | _ => rfl

theorem Arg.uses_unlined (a : Arg) : a.unlined.uses.map Prod.fst = a.uses.map Prod.fst := by
  cases a with
  | scalar s => exact Scalar.uses_unlined s
  | _ => rfl

theorem Call.uses_unlined (c : Call) : c.unlined.uses.map Prod.fst = c.uses.map Prod.fst := by
  simp [Call.unlined, Call.uses, List.map_flatMap, List.flatMap_map, Arg.uses_unlined]

theorem Value.uses_unlined (v : Value) : v.unlined.uses.map Prod.fst = v.uses.map Prod.fst := by
  cases v <;>
    simp [Value.unlined, Value.uses, List.map_flatMap, List.flatMap_map, Scalar.uses_unlined,
      Call.uses_unlined]

/-- The parameters a component reads do not depend on line numbers. -/
theorem inferParams_unlined (as : List Assignment) :
    inferParams (as.map Assignment.unlined) = inferParams as := by
  simp [inferParams, List.flatMap_map, Assignment.unlined, Value.uses_unlined]

/-! ## Reading lines -/

/-- How a property line of the component named `comp` is built. -/
def lineOfSyntax (comp : String) (l : PropertyLine) : Except BuildError Assignment :=
  match Value.ofRhs l.rhs with
  | .ok v => .ok ⟨l.name.text, v, l.name.line⟩
  | .error b => .error ⟨.component comp l.name.text, b⟩

theorem Component.ofSyntax_eq (c : ComponentDecl) :
    Component.ofSyntax c = (do
      let as ← c.properties.mapM (lineOfSyntax c.name.text)
      pure ⟨ComponentKind.ofKeyword c.base.text, c.name.text, c.name.line, inferParams as, as⟩) :=
  rfl

namespace Syntax.Cursor

variable {t : Token} {r : List Token} {e : List ParseError} {l : Nat}

theorem skipNewlines_mk (h : nextKind r ≠ .newline) : (Cursor.mk r e l).skipNewlines = ⟨r, e, l⟩ := by
  cases r with
  | nil => rfl
  | cons t r => simp_all [skipNewlines]

theorem endLine_mk_cons (h : t.kind = .newline) :
    (Cursor.mk (t :: r) e l).endLine = (true, ⟨r, e, l⟩) := by
  simp [endLine, atEnd, h]

end Syntax.Cursor

/-- A property line is read back from its tokens, through its line end. -/
theorem Assignment.parse_written {a : Assignment} (h : a.WellFormed) {ts : List Token}
    (hts : ts.map lex = a.lexemes) :
    ∃ t, Reads parsePropertyLine (fun _ => True) ts (some t) ∧
      ∀ comp, Builds (lineOfSyntax comp) Assignment.unlined t a := by
  obtain ⟨prop, v, line⟩ := a
  obtain ⟨-, hv⟩ := h
  obtain ⟨tn, r, rfl, hkn, htn, hr⟩ := map_lex_eq_cons.1 hts
  obtain ⟨te, r', rfl, hke, -, hr'⟩ := map_lex_eq_cons.1 hr
  obtain ⟨tsv, tsl, rfl, hsv, hsl⟩ := List.map_eq_append_iff.1 hr'
  obtain ⟨tl, r'', rfl, hkl, -, hr''⟩ := map_lex_eq_cons.1 hsl
  obtain rfl := List.map_eq_nil_iff.1 hr''
  obtain ⟨rhs, hread, v', hb, hu⟩ := Value.parseRhs_written hv hsv
  refine ⟨⟨tn, rhs⟩, fun post e l _ => ?_, fun comp => ⟨⟨prop, v', tn.line⟩, ?_, ?_⟩⟩
  · have hread' := hread (tl :: post) e l (by simp [AfterValue, hkl, endsValue])
    simp [parsePropertyLine, hkn, hke, hread', Cursor.endLine_mk_cons hkl]
  · simp [lineOfSyntax, hb, htn]
  · simp [Assignment.unlined, hu]

/-- Tokens that end a component body: no line end, and no `name =`. -/
def AfterBody (post : List Token) : Prop :=
  nextKind post ≠ .newline ∧ ¬(nextKind post = .identifier ∧ nextKind post.tail = .equals)

theorem AfterBody.not_atAssignment {post : List Token} (h : AfterBody post) (e : List ParseError)
    (l : Nat) : (Cursor.mk post e l).atAssignment = false := by
  cases post with
  | nil => rfl
  | cons t r =>
    have h2 := h.2
    simp only [nextKind_cons, List.tail_cons, not_and] at h2
    simp only [Cursor.atAssignment, Cursor.check_mk, Cursor.checkAt_mk, List.drop_succ_cons,
      List.drop_zero, nextKind_cons, Bool.and_eq_false_iff, beq_eq_false_iff_ne, ne_eq]
    by_cases hk : t.kind = .identifier
    · exact Or.inr (h2 hk)
    · exact Or.inl hk

/-- The property lines of a component body are read back, after the lines `acc`
read before them, when no line end and no `name =` follows them. -/
theorem parseBody_written : ∀ {as : List Assignment} {ts : List Token} (acc : List PropertyLine),
    (∀ a ∈ as, a.WellFormed) → ts.map lex = as.flatMap Assignment.lexemes →
    ∃ ls, Reads (fun c => parseBody c acc) AfterBody ts (acc ++ ls) ∧
      List.Forall₂ (fun l a => ∀ comp, Builds (lineOfSyntax comp) Assignment.unlined l a) ls as
  | [], ts, acc, _, hts => by
    obtain rfl : ts = [] := List.map_eq_nil_iff.1 hts
    refine ⟨[], fun post e l hpost => ?_, .nil⟩
    dsimp only
    rw [parseBody]
    simp [Cursor.skipNewlines_mk hpost.1, hpost.not_atAssignment]
  | a :: as, ts, acc, h, hts => by
    rw [List.flatMap_cons] at hts
    obtain ⟨tsa, tsr, rfl, ha, hr⟩ := List.map_eq_append_iff.1 hts
    obtain ⟨line, hread, hb⟩ := Assignment.parse_written (h a List.mem_cons_self) ha
    obtain ⟨ls, hrest, hforall⟩ := parseBody_written (acc ++ [line])
      (fun x hx => h x (List.mem_cons_of_mem _ hx)) hr
    refine ⟨line :: ls, fun post e l hpost => ?_, .cons hb hforall⟩
    have hstart : nextKind (tsa ++ (tsr ++ post)) ≠ .newline := by
      rw [nextKind_append_of_map_lex ha]
      simp
    dsimp only
    rw [parseBody]
    simp [List.append_assoc, Cursor.skipNewlines_mk hstart, atAssignment_of_map_lex ha,
      hread _ e l trivial, hrest post e l hpost]
    -- a line has tokens, so reading it made progress
    rintro rfl
    simp [Assignment.lexemes] at ha

/-- A component is read back from its tokens, header and body, when no line end
and no `name =` follows them. -/
theorem Component.parse_written {c : Component} (h : c.WellFormed) {ts : List Token}
    (hts : ts.map lex = c.lexemes) :
    ∃ t, Reads parseComponent AfterBody ts (some t) ∧
      Builds Component.ofSyntax Component.unlined t c := by
  obtain ⟨kind, name, line, params, as⟩ := c
  obtain ⟨-, -, hparams, has⟩ := h
  dsimp only at hparams has
  obtain ⟨tb, r₁, rfl, hkb, htb, hr₁⟩ := map_lex_eq_cons.1 hts
  obtain ⟨tn, r₂, rfl, hkn, htn, hr₂⟩ := map_lex_eq_cons.1 hr₁
  obtain ⟨tc, r₃, rfl, hkc, -, hr₃⟩ := map_lex_eq_cons.1 hr₂
  obtain ⟨tl, r₄, rfl, hkl, -, hr₄⟩ := map_lex_eq_cons.1 hr₃
  obtain ⟨ls, hread, hforall⟩ := parseBody_written [] has hr₄
  obtain ⟨as', has', hu⟩ := Builds.mapM (hforall.imp fun _ _ hb => hb name)
  -- the builder infers the parameters from the assignments it built
  have hp : inferParams as' = params := by
    rw [hparams, ← inferParams_unlined as', hu, inferParams_unlined]
  refine ⟨⟨tb, tn, ls⟩, fun post e l hpost => ?_, ⟨kind, name, tn.line, params, as'⟩, ?_, ?_⟩
  · simp [parseComponent, hkb, hkn, hkc, Cursor.endLine_mk_cons hkl, hread post e l hpost]
  · simp [Component.ofSyntax_eq, has', htb, htn, ofKeyword_keyword, hp]
  · simp [Component.unlined, hu]

/-- A variable is read back from its tokens, through its line end. -/
theorem Variable.parse_written {v : Variable} (h : v.WellFormed) {ts : List Token}
    (hts : ts.map lex = v.lexemes) :
    ∃ t, Reads parseVariable (fun _ => True) ts (some t) ∧
      Builds Variable.ofSyntax Variable.unlined t v := by
  obtain ⟨name, line, inst⟩ := v
  obtain ⟨-, hinst⟩ := h
  obtain ⟨tsi, tsr, rfl, hi, hr⟩ := List.map_eq_append_iff.1 hts
  obtain ⟨ta, r₁, rfl, hka, -, hr₁⟩ := map_lex_eq_cons.1 hr
  obtain ⟨tn, r₂, rfl, hkn, htn, hr₂⟩ := map_lex_eq_cons.1 hr₁
  obtain ⟨tl, r₃, rfl, hkl, -, hr₃⟩ := map_lex_eq_cons.1 hr₂
  obtain rfl := List.map_eq_nil_iff.1 hr₃
  obtain ⟨i, hread, i', hb, hu⟩ := Instance.parse_written hinst hi
  refine ⟨⟨i, tn⟩, fun post e l _ => ?_, ⟨name, tn.line, i'⟩, ?_, ?_⟩
  · have hread' := hread (ta :: tn :: tl :: post) e l (Or.inl hka)
    simp [parseVariable, hread', hka, hkn, Cursor.endLine_mk_cons hkl]
  · simp [Variable.ofSyntax, hb, htn]
  · simp [Variable.unlined, hu]

/-! ## Reading files -/

/-- A variable line starts with a name and goes on with `WITH` or `AS`, so it is
no property line. -/
theorem Variable.afterBody_written {v : Variable} {ts : List Token} (hts : ts.map lex = v.lexemes)
    (post : List Token) : AfterBody (ts ++ post) := by
  obtain ⟨t₁, r, rfl, hk₁, -, hr⟩ := map_lex_eq_cons.1 hts
  have hk₂ : nextKind (r ++ post) = .withKw ∨ nextKind (r ++ post) = .asKw := by
    cases hargs : v.inst.args.isEmpty with
    | true =>
      simp only [hargs, if_true] at hr
      exact Or.inr (nextKind_append_of_map_lex hr post)
    | false =>
      simp only [hargs, Bool.false_eq_true, if_false] at hr
      exact Or.inl (nextKind_append_of_map_lex hr post)
  refine ⟨by simp [hk₁], fun ⟨_, heq⟩ => ?_⟩
  rcases hk₂ with hk₂ | hk₂ <;> simp [hk₂] at heq

/-- One component declaration is read, and reading goes on after it. -/
theorem Component.decl_step {c : Component} (h : c.WellFormed) {ts : List Token}
    (hts : ts.map lex = c.lexemes) :
    ∃ d, Builds Component.ofSyntax Component.unlined d c ∧
      ∀ (acc : DefFile) (post : List Token) (e : List ParseError) (l : Nat), acc.vars = [] →
        AfterBody post → parseDecls ⟨ts ++ post, e, l⟩ acc =
          parseDecls ⟨post, e, l⟩ { acc with components := acc.components ++ [d] } := by
  obtain ⟨d, hread, hb⟩ := Component.parse_written h hts
  refine ⟨d, hb, fun acc post e l hvars hpost => ?_⟩
  have hk : nextKind (ts ++ post) = .baseComponent := nextKind_append_of_map_lex hts post
  -- a declaration has tokens, so reading it makes progress
  have hlen : 0 < ts.length := List.length_pos_iff.2 (by rintro rfl; simp [Component.lexemes] at hts)
  rw [parseDecls]
  simp [Cursor.atEnd, hk, hvars, hread post e l hpost, Cursor.skipNewlines_mk hpost.1, hlen]

/-- One variable declaration is read, and reading goes on after it. -/
theorem Variable.decl_step {v : Variable} (h : v.WellFormed) {ts : List Token}
    (hts : ts.map lex = v.lexemes) :
    ∃ d, Builds Variable.ofSyntax Variable.unlined d v ∧
      ∀ (acc : DefFile) (post : List Token) (e : List ParseError) (l : Nat),
        nextKind post ≠ .newline → parseDecls ⟨ts ++ post, e, l⟩ acc =
          parseDecls ⟨post, e, l⟩ { acc with vars := acc.vars ++ [d] } := by
  obtain ⟨d, hread, hb⟩ := Variable.parse_written h hts
  refine ⟨d, hb, fun acc post e l hpost => ?_⟩
  have hk : nextKind (ts ++ post) = .identifier := nextKind_append_of_map_lex hts post
  have hlen : 0 < ts.length := List.length_pos_iff.2 (by rintro rfl; simp [Variable.lexemes] at hts)
  rw [parseDecls]
  simp [Cursor.atEnd, hk, hread post e l trivial, Cursor.skipNewlines_mk hpost, hlen]

/-- The components of a definition section are read one after the other, while
no variable has been read. -/
theorem parseDecls_components : ∀ {cs : List Component} {ts : List Token},
    (∀ c ∈ cs, c.WellFormed) → ts.map lex = cs.flatMap Component.lexemes →
    ∃ ds, List.Forall₂ (Builds Component.ofSyntax Component.unlined) ds cs ∧
      ∀ (acc : DefFile) (post : List Token) (e : List ParseError) (l : Nat), acc.vars = [] →
        AfterBody post → parseDecls ⟨ts ++ post, e, l⟩ acc =
          parseDecls ⟨post, e, l⟩ { acc with components := acc.components ++ ds }
  | [], ts, _, hts => by
    obtain rfl : ts = [] := List.map_eq_nil_iff.1 hts
    exact ⟨[], .nil, fun acc post e l _ _ => by simp⟩
  | c :: cs, ts, h, hts => by
    rw [List.flatMap_cons] at hts
    obtain ⟨tsc, tsr, rfl, hc, hr⟩ := List.map_eq_append_iff.1 hts
    obtain ⟨d, hb, hstep⟩ := Component.decl_step (h c List.mem_cons_self) hc
    obtain ⟨ds, hforall, hrest⟩ := parseDecls_components
      (fun x hx => h x (List.mem_cons_of_mem _ hx)) hr
    refine ⟨d :: ds, .cons hb hforall, fun acc post e l hvars hpost => ?_⟩
    -- after a component comes the next component, or what follows them all
    have hnext : AfterBody (tsr ++ post) := by
      cases cs with
      | nil =>
        obtain rfl : tsr = [] := List.map_eq_nil_iff.1 hr
        exact hpost
      | cons c' cs =>
        rw [List.flatMap_cons] at hr
        obtain ⟨tsc', tsr', rfl, hc', -⟩ := List.map_eq_append_iff.1 hr
        have hk : nextKind (tsc' ++ (tsr' ++ post)) = .baseComponent :=
          nextKind_append_of_map_lex hc' _
        rw [List.append_assoc]
        exact ⟨by simp [hk], by simp [hk]⟩
    rw [List.append_assoc, hstep acc (tsr ++ post) e l hvars hnext,
      hrest { acc with components := acc.components ++ [d] } post e l hvars hpost]
    simp

/-- The variables of a definition section are read one after the other. -/
theorem parseDecls_vars : ∀ {vs : List Variable} {ts : List Token},
    (∀ v ∈ vs, v.WellFormed) → ts.map lex = vs.flatMap Variable.lexemes →
    ∃ ds, List.Forall₂ (Builds Variable.ofSyntax Variable.unlined) ds vs ∧
      ∀ (acc : DefFile) (post : List Token) (e : List ParseError) (l : Nat),
        nextKind post ≠ .newline → parseDecls ⟨ts ++ post, e, l⟩ acc =
          parseDecls ⟨post, e, l⟩ { acc with vars := acc.vars ++ ds }
  | [], ts, _, hts => by
    obtain rfl : ts = [] := List.map_eq_nil_iff.1 hts
    exact ⟨[], .nil, fun acc post e l _ => by simp⟩
  | v :: vs, ts, h, hts => by
    rw [List.flatMap_cons] at hts
    obtain ⟨tsv, tsr, rfl, hv, hr⟩ := List.map_eq_append_iff.1 hts
    obtain ⟨d, hb, hstep⟩ := Variable.decl_step (h v List.mem_cons_self) hv
    obtain ⟨ds, hforall, hrest⟩ := parseDecls_vars
      (fun x hx => h x (List.mem_cons_of_mem _ hx)) hr
    refine ⟨d :: ds, .cons hb hforall, fun acc post e l hpost => ?_⟩
    have hnext : nextKind (tsr ++ post) ≠ .newline := by
      cases vs with
      | nil =>
        obtain rfl : tsr = [] := List.map_eq_nil_iff.1 hr
        exact hpost
      | cons v' vs =>
        rw [List.flatMap_cons] at hr
        obtain ⟨tsv', tsr', rfl, hv', -⟩ := List.map_eq_append_iff.1 hr
        rw [List.append_assoc, nextKind_append_of_map_lex hv']
        simp
    rw [List.append_assoc, hstep acc (tsr ++ post) e l hnext,
      hrest { acc with vars := acc.vars ++ [d] } post e l hpost]
    simp

theorem parseDecls_eof {t : Token} (h : t.kind = .eof) (acc : DefFile) (e : List ParseError)
    (l : Nat) : parseDecls ⟨[t], e, l⟩ acc = (acc, ⟨[t], e, l⟩) := by
  rw [parseDecls]
  simp [Cursor.atEnd, h]

/-- The tokens of a well-formed definition section, then the end of input, parse
without error into declarations that build it. -/
theorem DefFile.ofTokens_written {d : Definition} (h : d.WellFormed) {ts : List Token}
    (hts : ts.map lex = d.lexemes ++ [(.eof, "")]) :
    ∃ file, DefFile.ofTokens ts = (file, []) ∧
      Builds Definition.ofSyntax Definition.unlined file d := by
  obtain ⟨cs, vs⟩ := d
  obtain ⟨hcs, hvs⟩ := h
  obtain ⟨tsd, tse, rfl, hd, he⟩ := List.map_eq_append_iff.1 hts
  obtain ⟨teof, r, rfl, hkeof, -, hr⟩ := map_lex_eq_cons.1 he
  obtain rfl := List.map_eq_nil_iff.1 hr
  obtain ⟨tsc, tsv, rfl, hc, hv⟩ := List.map_eq_append_iff.1 hd
  obtain ⟨cds, hcb, hcrun⟩ := parseDecls_components hcs hc
  obtain ⟨vds, hvb, hvrun⟩ := parseDecls_vars hvs hv
  obtain ⟨cs', hcs', hcu⟩ := Builds.mapM hcb
  obtain ⟨vs', hvs', hvu⟩ := Builds.mapM hvb
  -- after the components come the variables, then the end of input
  have hafter : AfterBody (tsv ++ [teof]) := by
    cases vs with
    | nil =>
      obtain rfl := List.map_eq_nil_iff.1 hv
      simp [AfterBody, hkeof]
    | cons v vs =>
      rw [List.flatMap_cons] at hv
      obtain ⟨tsv₁, tsv₂, rfl, hv₁, -⟩ := List.map_eq_append_iff.1 hv
      rw [List.append_assoc]
      exact Variable.afterBody_written hv₁ _
  have hstart : nextKind (tsc ++ (tsv ++ [teof])) ≠ .newline := by
    cases cs with
    | nil =>
      obtain rfl := List.map_eq_nil_iff.1 hc
      exact hafter.1
    | cons c cs =>
      rw [List.flatMap_cons] at hc
      obtain ⟨tsc₁, tsc₂, rfl, hc₁, -⟩ := List.map_eq_append_iff.1 hc
      rw [List.append_assoc, nextKind_append_of_map_lex hc₁]
      simp
  refine ⟨⟨cds, vds⟩, ?_, ⟨cs', vs'⟩, by simp [Definition.ofSyntax, hcs', hvs'],
    by simp [Definition.unlined, hcu, hvu]⟩
  simp only [DefFile.ofTokens, Cursor.start, List.append_assoc]
  rw [Cursor.skipNewlines_mk hstart, hcrun {} _ [] _ rfl hafter,
    hvrun _ [teof] [] _ (by simp [hkeof]), parseDecls_eof hkeof]
  rfl

/-- **Written definitions load back.** A well-formed definition section, written
as text, loads into itself up to line numbers. -/
theorem Definition.load_print {d : Definition} (h : d.WellFormed) :
    ∃ d', Definition.load d.print = .ok d' ∧ d'.unlined = d.unlined := by
  obtain ⟨ts, hscan, hts⟩ := Definition.scan_print h
  obtain ⟨file, hfile, d', hb, hu⟩ := DefFile.ofTokens_written h hts
  exact ⟨d', by simp [Definition.load, DefFile.parse, hscan, hfile, hb], hu⟩

/-- One usage is read, through its line end, and reading goes on after it. -/
theorem Usage.parse_step {u : Usage} (h : u.WellFormed) {ts : List Token}
    (hts : ts.map lex = u.lexemes) :
    ∃ s, Builds Usage.ofSyntax Usage.unlined s u ∧
      ∀ (acc : List Syntax.Usage) (post : List Token) (e : List ParseError) (l : Nat),
        nextKind post ≠ .newline →
          parseUsages ⟨ts ++ post, e, l⟩ acc = parseUsages ⟨post, e, l⟩ (acc ++ [s]) := by
  cases u with
  | ref n line =>
    obtain ⟨tn, r, rfl, hkn, htn, hr⟩ := map_lex_eq_cons.1 hts
    obtain ⟨tl, r', rfl, hkl, -, hr'⟩ := map_lex_eq_cons.1 hr
    obtain rfl := List.map_eq_nil_iff.1 hr'
    refine ⟨.name tn, ⟨.ref n tn.line, by simp [Usage.ofSyntax, htn], rfl⟩,
      fun acc post e l hpost => ?_⟩
    rw [parseUsages]
    simp +arith [Cursor.atEnd, hkn, hkl, Cursor.checkAt_mk, Cursor.endLine_mk_cons hkl,
      Cursor.skipNewlines_mk hpost]
  | inst i =>
    obtain ⟨hi, hne⟩ := h
    obtain ⟨tsi, tsl, rfl, hsi, hsl⟩ := List.map_eq_append_iff.1 hts
    obtain ⟨tl, r, rfl, hkl, -, hr⟩ := map_lex_eq_cons.1 hsl
    obtain rfl := List.map_eq_nil_iff.1 hr
    obtain ⟨t, hread, i', hb, hu⟩ := Instance.parse_written hi hsi
    refine ⟨.inst t, ⟨.inst i', by simp [Usage.ofSyntax, hb], by simp [Usage.unlined, hu]⟩,
      fun acc post e l hpost => ?_⟩
    -- an instance on a view line has settings, so `WITH` follows its name
    obtain ⟨a, rest, hargs⟩ := List.exists_cons_of_ne_nil hne
    have hsi' := hsi
    simp only [Instance.lexemes, hargs, List.isEmpty_cons, Bool.false_eq_true, if_false] at hsi'
    obtain ⟨t₁, r₁, rfl, hk₁, -, hr₁⟩ := map_lex_eq_cons.1 hsi'
    obtain ⟨t₂, r₂, rfl, hk₂, -, -⟩ := map_lex_eq_cons.1 hr₁
    have hread' := hread (tl :: post) e l (Or.inr hkl)
    simp only [List.cons_append] at hread'
    rw [parseUsages]
    simp [Cursor.atEnd, hk₁, hk₂, Cursor.checkAt_mk, hread', Cursor.endLine_mk_cons hkl,
      Cursor.skipNewlines_mk hpost]
    intro hle
    omega

/-- A usage starts with a name. -/
theorem Usage.nextKind_written {u : Usage} {ts : List Token} (h : ts.map lex = u.lexemes)
    (post : List Token) : nextKind (ts ++ post) = .identifier := by
  cases u with
  | ref n line => exact nextKind_append_of_map_lex h post
  | inst i =>
    rw [Usage.lexemes, Instance.lexemes, List.cons_append] at h
    exact nextKind_append_of_map_lex h post

/-- The usages of a view are read one after the other. -/
theorem parseUsages_written : ∀ {us : List Usage} {ts : List Token},
    (∀ u ∈ us, u.WellFormed) → ts.map lex = us.flatMap Usage.lexemes →
    ∃ ss, List.Forall₂ (Builds Usage.ofSyntax Usage.unlined) ss us ∧
      ∀ (acc : List Syntax.Usage) (post : List Token) (e : List ParseError) (l : Nat),
        nextKind post ≠ .newline →
          parseUsages ⟨ts ++ post, e, l⟩ acc = parseUsages ⟨post, e, l⟩ (acc ++ ss)
  | [], ts, _, hts => by
    obtain rfl : ts = [] := List.map_eq_nil_iff.1 hts
    exact ⟨[], .nil, fun acc post e l _ => by simp⟩
  | u :: us, ts, h, hts => by
    rw [List.flatMap_cons] at hts
    obtain ⟨tsu, tsr, rfl, hu, hr⟩ := List.map_eq_append_iff.1 hts
    obtain ⟨s, hb, hstep⟩ := Usage.parse_step (h u List.mem_cons_self) hu
    obtain ⟨ss, hforall, hrest⟩ := parseUsages_written
      (fun x hx => h x (List.mem_cons_of_mem _ hx)) hr
    refine ⟨s :: ss, .cons hb hforall, fun acc post e l hpost => ?_⟩
    -- after a usage comes the next usage, which starts with a name, or what follows them all
    have hnext : nextKind (tsr ++ post) ≠ .newline := by
      cases us with
      | nil =>
        obtain rfl : tsr = [] := List.map_eq_nil_iff.1 hr
        exact hpost
      | cons u' us =>
        rw [List.flatMap_cons] at hr
        obtain ⟨tsu', tsr', rfl, hu', -⟩ := List.map_eq_append_iff.1 hr
        rw [List.append_assoc, Usage.nextKind_written hu']
        simp
    rw [List.append_assoc, hstep acc (tsr ++ post) e l hnext, hrest (acc ++ [s]) post e l hpost]
    simp

theorem parseUsages_eof {t : Token} (h : t.kind = .eof) (acc : List Syntax.Usage)
    (e : List ParseError) (l : Nat) : parseUsages ⟨[t], e, l⟩ acc = (acc, ⟨[t], e, l⟩) := by
  rw [parseUsages]
  simp [Cursor.atEnd, h]

/-- **Written views load back.** A well-formed view, written as text, loads into
itself up to line numbers. -/
theorem View.load_print {v : View} (h : v.WellFormed) :
    ∃ v', View.load v.name v.print = .ok v' ∧ v'.unlined = v.unlined := by
  obtain ⟨name, us⟩ := v
  obtain ⟨ts, hscan, hts⟩ := View.scan_print h
  obtain ⟨tsu, tse, rfl, hu, he⟩ := List.map_eq_append_iff.1 hts
  obtain ⟨teof, r, rfl, hkeof, -, hr⟩ := map_lex_eq_cons.1 he
  obtain rfl := List.map_eq_nil_iff.1 hr
  obtain ⟨ss, hforall, hrun⟩ := parseUsages_written h hu
  obtain ⟨us', hus', huu⟩ := Builds.mapM hforall
  -- a view starts with a usage, which starts with a name, or it is empty
  have hstart : nextKind (tsu ++ [teof]) ≠ .newline := by
    cases us with
    | nil =>
      obtain rfl := List.map_eq_nil_iff.1 hu
      simp [hkeof]
    | cons u us =>
      rw [View.lexemes, List.flatMap_cons] at hu
      obtain ⟨tsu₁, tsu₂, rfl, hu₁, -⟩ := List.map_eq_append_iff.1 hu
      rw [List.append_assoc, Usage.nextKind_written hu₁]
      simp
  have hfile : ViewFile.ofTokens (tsu ++ [teof]) = (⟨ss⟩, []) := by
    simp only [ViewFile.ofTokens, Cursor.start]
    rw [Cursor.skipNewlines_mk hstart, hrun [] [teof] [] _ (by simp [hkeof]), parseUsages_eof hkeof]
    rfl
  refine ⟨⟨name, us'⟩, ?_, by simp [View.unlined, huu]⟩
  simp [View.load, ViewFile.parse, hscan, hfile, View.ofSyntax, hus']

end UiLang
