import UiLang.Proofs.ParsedNumbers

/-!
# Where the parser's cursor may lead

From the cursor where a parser starts to the cursor where it stops, the tokens
left are a suffix of those before and the last line is kept (`Cursor.Leads`).
Along the way the lines stay in order (`Cursor.LinesInOrder`): the tokens still
to read are in line order, and no error comes after a token still to read. An
error about the next token keeps that order, and so does one about the token a
parser started at, once no error was recorded since
(`Cursor.Leads.report_start`): that is where the parser reports a member used
as a value and an empty list, both read already.

Scanned tokens start in line order (`scan_linesInOrder`). A round of a file
loop reads a token unless at the end of input (`Cursor.Round`).
-/

namespace UiLang.Token

/-- The tokens scanned from line `line` on are in line order, none before
`line`. -/
theorem scanFrom_lines {d line col pending : Nat} {cs : List Char} {ts : List Token}
    (h : scanFrom d line col pending cs = .ok ts) :
    ts.Pairwise (fun t u => t.line ≤ u.line) ∧ ∀ t ∈ ts, line ≤ t.line := by
  fun_induction scanFrom d line col pending cs generalizing ts with
  | case1 d line col pending =>
    cases h
    simp [endToken]
  | case2 => cases h
  | case3 => cases h
  | case4 d line col pending c rest k text r hn d' =>
    rename_i ih
    obtain ⟨ts', h', rfl⟩ := map_cons_eq_ok h
    obtain ⟨hs, hl⟩ := ih h'
    exact ⟨List.pairwise_cons.2 ⟨hl, hs⟩, List.forall_mem_cons.2 ⟨Nat.le_refl _, hl⟩⟩
  | case5 line col pending c rest text r hn ih =>
    -- a line end outside brackets is a token, and the next line starts after it
    obtain ⟨ts', h', rfl⟩ := map_cons_eq_ok h
    obtain ⟨hs, hl⟩ := ih h'
    have hl' : ∀ t ∈ ts', line ≤ t.line := fun t ht => Nat.le_of_succ_le (hl t ht)
    exact ⟨List.pairwise_cons.2 ⟨hl', hs⟩, List.forall_mem_cons.2 ⟨Nat.le_refl _, hl'⟩⟩
  | case6 d line col pending c rest text r hn hd ih =>
    obtain ⟨hs, hl⟩ := ih h
    exact ⟨hs, fun t ht => Nat.le_of_succ_le (hl t ht)⟩
  | case7 d line col pending c rest text r hn ih => exact ih h
  | case8 d line col pending c rest text r hn ih => exact ih h

end UiLang.Token

namespace UiLang.Syntax

/-! ## Lines in order -/

namespace Cursor

variable {c c' c₁ c₂ : Cursor} {L : Nat}

/-- The line an error about `t` is recorded on: the token's own, or the last
line for the end of input. -/
def lineOf (c : Cursor) (t : Token) : Nat := if t.line = 0 then c.lastLine else t.line

theorem report_errors (c : Cursor) (t : Token) (p : ParseProblem) :
    (c.report t p).errors = c.errors ++ [⟨c.lineOf t, p⟩] := rfl

/-- The tokens still to read are in line order, each on a line from `1` to the
last line, and the errors found so far are in line order, none after a token
still to read or after the last line. -/
structure LinesInOrder (c : Cursor) : Prop where
  rest_sorted : c.rest.Pairwise fun t u => t.line ≤ u.line
  rest_lines : ∀ t ∈ c.rest, 0 < t.line ∧ t.line ≤ c.lastLine
  errors_sorted : c.errors.Pairwise fun e f => e.line ≤ f.line
  errors_before : ∀ e ∈ c.errors, (∀ t ∈ c.rest, e.line ≤ t.line) ∧ e.line ≤ c.lastLine

/-- An error on line `L` may be recorded at `c`: no earlier than the errors so
far, and no later than the tokens still to read and the last line. -/
structure Reportable (c : Cursor) (L : Nat) : Prop where
  after_errors : ∀ e ∈ c.errors, e.line ≤ L
  before_rest : ∀ t ∈ c.rest, L ≤ t.line
  le_lastLine : L ≤ c.lastLine

/-- An error about the next token comes in order. -/
theorem LinesInOrder.reportable_peek (h : c.LinesInOrder) : c.Reportable (c.lineOf c.peek) := by
  obtain ⟨_ | ⟨t, r⟩, errors, lastLine⟩ := c
  · -- past the end the error takes the last line
    refine ⟨fun e he => (h.errors_before e he).2, by simp, ?_⟩
    simp [lineOf, peek, peekAt, endOfInput]
  · have ht := h.rest_lines t (by simp)
    have hline : lineOf ⟨t :: r, errors, lastLine⟩ (peek ⟨t :: r, errors, lastLine⟩) = t.line := by
      simp [lineOf, peek, peekAt, Nat.pos_iff_ne_zero.1 ht.1]
    rw [hline]
    refine ⟨fun e he => (h.errors_before e he).1 t (by simp), fun u hu => ?_, ht.2⟩
    rcases List.mem_cons.1 hu with rfl | hu
    · exact Nat.le_refl _
    · exact List.rel_of_pairwise_cons h.rest_sorted hu

theorem LinesInOrder.report (h : c.LinesInOrder) {t : Token} (hr : c.Reportable (c.lineOf t))
    (p : ParseProblem) : (c.report t p).LinesInOrder where
  rest_sorted := h.rest_sorted
  rest_lines := h.rest_lines
  errors_sorted := by
    rw [report_errors, List.pairwise_append]
    refine ⟨h.errors_sorted, List.pairwise_singleton _ _, fun e he f hf => ?_⟩
    rw [List.mem_singleton.1 hf]
    exact hr.after_errors e he
  errors_before e he := by
    rw [report_errors, List.mem_append, List.mem_singleton] at he
    rcases he with he | rfl
    · exact h.errors_before e he
    · exact ⟨hr.before_rest, hr.le_lastLine⟩

/-- Reading on keeps the lines in order. -/
theorem LinesInOrder.of_suffix (h : c.LinesInOrder) (hs : c'.rest <:+ c.rest)
    (he : c'.errors = c.errors) (hl : c'.lastLine = c.lastLine) : c'.LinesInOrder where
  rest_sorted := h.rest_sorted.sublist hs.sublist
  rest_lines t ht := by
    rw [hl]
    exact h.rest_lines t (hs.subset ht)
  errors_sorted := by
    rw [he]
    exact h.errors_sorted
  errors_before e he' := by
    rw [he] at he'
    rw [hl]
    exact ⟨fun t ht => (h.errors_before e he').1 t (hs.subset ht), (h.errors_before e he').2⟩

theorem Reportable.of_suffix (h : c.Reportable L) (hs : c'.rest <:+ c.rest)
    (he : c'.errors = c.errors) (hl : c'.lastLine = c.lastLine) : c'.Reportable L where
  after_errors e he' := h.after_errors e (he ▸ he')
  before_rest t ht := h.before_rest t (hs.subset ht)
  le_lastLine := hl ▸ h.le_lastLine

/-! ## Where a parser may lead -/

/-- From `c` a parser may stop at `c'`: the tokens left are a suffix of those
before, the last line is kept, and lines in order stay in order. -/
structure Leads (c c' : Cursor) : Prop where
  suffix : c'.rest <:+ c.rest
  lastLine_eq : c'.lastLine = c.lastLine
  inOrder : c.LinesInOrder → c'.LinesInOrder

theorem Leads.refl (c : Cursor) : Leads c c := ⟨List.suffix_refl _, rfl, id⟩

theorem Leads.trans (h₁ : Leads c c₁) (h₂ : Leads c₁ c₂) : Leads c c₂ :=
  ⟨h₂.suffix.trans h₁.suffix, h₂.lastLine_eq.trans h₁.lastLine_eq, h₂.inOrder ∘ h₁.inOrder⟩

theorem Leads.length_le (h : Leads c c') : c'.rest.length ≤ c.rest.length := h.suffix.length_le

/-- What follows reading a token that is not the end of input has fewer tokens
left. -/
theorem Leads.lt_of_skip (h : Leads c.skip c') (hk : c.peek.kind ≠ .eof) :
    c'.rest.length < c.rest.length :=
  Nat.lt_of_le_of_lt h.length_le (skip_length hk)

theorem leads_of_suffix (hs : c'.rest <:+ c.rest) (he : c'.errors = c.errors)
    (hl : c'.lastLine = c.lastLine) : Leads c c' :=
  ⟨hs, hl, fun h => h.of_suffix hs he hl⟩

theorem leads_skip (c : Cursor) : Leads c c.skip := by
  unfold skip
  split
  · exact .refl c
  · exact leads_of_suffix (List.tail_suffix _) rfl rfl

theorem leads_accept {k : TokenKind} (h : c.accept k = some c') : Leads c c' := by
  rw [(accept_eq_some h).1]
  exact leads_skip c

theorem leads_skipNewlines (c : Cursor) : Leads c c.skipNewlines :=
  leads_of_suffix (List.dropWhile_suffix _) rfl rfl

/-- **An error about the token a parser started at comes in order** when no
error was recorded since: it is no earlier than the errors before it, and no
later than what is left to read. -/
theorem Leads.report_start (h : Leads c c₁) (he : c₁.errors = c.errors) (p : ParseProblem) :
    Leads c (c₁.report c.peek p) where
  suffix := h.suffix
  lastLine_eq := h.lastLine_eq
  inOrder hc := by
    have hr := hc.reportable_peek.of_suffix h.suffix he h.lastLine_eq
    have hline : c₁.lineOf c.peek = c.lineOf c.peek := by
      simp only [lineOf, h.lastLine_eq]
    exact (h.inOrder hc).report (hline ▸ hr) p

theorem leads_report_peek (c : Cursor) (p : ParseProblem) : Leads c (c.report c.peek p) :=
  (Leads.refl c).report_start rfl p

/-- Skipping a line drops the tokens up to its end and reads the end. -/
theorem skipLine_suffix (c : Cursor) :
    c.skipLine.rest <:+ c.rest.dropWhile fun t => t.kind != .eof && t.kind != .newline := by
  unfold skipLine
  dsimp only
  cases ha : ({ c with rest := c.rest.dropWhile fun t => t.kind != .eof && t.kind != .newline } :
      Cursor).accept .newline with
  | none => exact List.suffix_refl _
  | some c' => exact (leads_accept ha).suffix

theorem skipLine_errors (c : Cursor) : c.skipLine.errors = c.errors := by
  unfold skipLine accept
  dsimp only
  split <;> simp

theorem skip_lastLine (c : Cursor) : c.skip.lastLine = c.lastLine := by
  unfold skip
  split <;> rfl

theorem skipLine_lastLine (c : Cursor) : c.skipLine.lastLine = c.lastLine := by
  unfold skipLine accept
  dsimp only
  split <;> simp [skip_lastLine]

theorem leads_skipLine (c : Cursor) : Leads c c.skipLine :=
  leads_of_suffix ((skipLine_suffix c).trans (List.dropWhile_suffix _)) (skipLine_errors c) (skipLine_lastLine c)

/-- Skipping a line that does not start at the end of input reads a token. -/
theorem skipLine_length (h : c.peek.kind ≠ .eof) : c.skipLine.rest.length < c.rest.length := by
  obtain ⟨_ | ⟨t, r⟩, errors, lastLine⟩ := c
  · exact absurd rfl h
  have ht : t.kind ≠ .eof := h
  by_cases hnl : t.kind = .newline
  · -- a line end right away is read
    simp [skipLine, accept, check, peek, peekAt, skip, atEnd, hnl]
  · -- otherwise the token goes with the rest of its line
    have hle := (skipLine_suffix ⟨t :: r, errors, lastLine⟩).length_le
    have hdrop : ((t :: r).dropWhile fun t => t.kind != .eof && t.kind != .newline).length ≤
        r.length := by
      rw [List.dropWhile_cons, if_pos (by simp [ht, hnl])]
      exact Token.length_dropWhile_le _ r
    simp only [List.length_cons] at hle ⊢
    omega

theorem leads_endLine {b : Bool} (h : c.endLine = (b, c')) : Leads c c' := by
  unfold endLine at h
  split at h
  · cases h
    exact .refl c
  · revert h
    cases ha : c.accept .newline with
    | some c₁ =>
      intro h
      cases h
      exact leads_accept ha
    | none =>
      intro h
      cases h
      exact (leads_report_peek c _).trans (leads_skipLine _)

/-- One round of a file loop from `c`: it leads on, and it reads a token unless
`c` is at the end of input. -/
structure Round (c c' : Cursor) : Prop where
  leads : Leads c c'
  shorter : c.peek.kind ≠ .eof → c'.rest.length < c.rest.length

theorem Round.of_skip (h : Leads c.skip c') : Round c c' :=
  ⟨(leads_skip c).trans h, h.lt_of_skip⟩

theorem round_skipLine (c : Cursor) (p : ParseProblem) : Round c (c.report c.peek p).skipLine :=
  ⟨(leads_report_peek c p).trans (leads_skipLine _), fun hk => skipLine_length hk⟩

theorem Leads.accept_lt {k : TokenKind} (h : Leads c c₁) (ha : c₁.accept k = some c₂) (hk : k ≠ .eof) :
    c₂.rest.length < c.rest.length := by
  obtain ⟨rfl, hpk⟩ := accept_eq_some ha
  exact Nat.lt_of_lt_of_le (skip_length (hpk ▸ hk)) h.length_le

theorem Round.skipNewlines_lt (h : Round c c') (hend : c.atEnd = false) :
    c'.skipNewlines.rest.length < c.rest.length :=
  Nat.lt_of_le_of_lt (leads_skipNewlines c').length_le (h.shorter (by simpa [atEnd, check] using hend))

end Cursor

/-- The tokens of a scanned text are in line order, from line `1` to the line of
the last. -/
theorem scan_linesInOrder {s : String} {ts : List Token} (h : Token.scan s = .ok ts) :
    (Cursor.start ts).LinesInOrder := by
  obtain ⟨hs, hl⟩ := Token.scanFrom_lines h
  refine ⟨hs, fun t ht => ⟨hl t ht, ?_⟩, List.Pairwise.nil, by simp [Cursor.start]⟩
  -- the last token is on the last line, and no token comes after it
  obtain ⟨init, last, rfl⟩ := (List.eq_nil_or_concat ts).resolve_left (List.ne_nil_of_mem ht)
  rw [List.concat_eq_append] at hs ht ⊢
  have hlast : (Cursor.start (init ++ [last])).lastLine = last.line := by
    simp [Cursor.start]
  rw [hlast]
  rcases List.mem_append.1 ht with ht | ht
  · exact (List.pairwise_append.1 hs).2.2 t ht last (List.mem_singleton_self _)
  · exact Nat.le_of_eq (congrArg Token.line (List.mem_singleton.1 ht))

end UiLang.Syntax
