import UiLang.Token.Scan
import Mathlib.Data.List.TakeWhile

/-!
# Scanning segments the source faithfully

Lines end at `\n`, at `\r\n` and at a lone `\r`; columns count characters from
`1`. `advance p cs` is the position reached after reading `cs` from `p`, and
`lineEnds p cs` lists the positions of the line ends of `cs`.

When scanning succeeds, the source splits as filler, a literal, filler, the
next literal, and so on, with filler at the end (`Segmented`). Filler is spaces,
tabs, line ends and comments that run from `#` to the end of their line
(`Filler`). Every token other than a line end or the end of input has its
literal at its own position, on one line, and these positions strictly
increase. The `newline` tokens are exactly the line ends of the filler read
where the bracket depth is `0`, at their positions; the depth counts the `[`
and `]` tokens before, and never goes below `0`. The token list ends with its
only `eof` token, on the line after the last line end (`scan_segments`).

The proof reads one piece at a time. `Piece.next_spec` says once what a piece
can be; the lemmas `Segmented.prepend_blank`, `prepend_lineEnd` and
`prepend_comment` put one dropped piece in front of a segmentation, and a
literal goes in front by `Segmented.cons`. `scanFrom_segmented` and
`scanFrom_eof` are the run lemmas over `scanFrom`.
-/

namespace UiLang.Token

/-! ## Positions -/

/-- The position reached after reading `cs` from position `p`: a line end
starts the next line at column `1`, and every other character moves one column
on. -/
def advance : Nat × Nat → List Char → Nat × Nat
  | p, [] => p
  | (l, _), '\r' :: '\n' :: r => advance (l + 1, 1) r
  | (l, _), '\r' :: r => advance (l + 1, 1) r
  | (l, _), '\n' :: r => advance (l + 1, 1) r
  | (l, c), _ :: r => advance (l, c + 1) r

/-- The positions of the line ends of `cs`, read from position `p`. -/
def lineEnds : Nat × Nat → List Char → List (Nat × Nat)
  | _, [] => []
  | (l, c), '\r' :: '\n' :: r => (l, c) :: lineEnds (l + 1, 1) r
  | (l, c), '\r' :: r => (l, c) :: lineEnds (l + 1, 1) r
  | (l, c), '\n' :: r => (l, c) :: lineEnds (l + 1, 1) r
  | (l, c), _ :: r => lineEnds (l, c + 1) r

/-- No character is a line end. -/
def NoLineEnd (cs : List Char) : Prop := ∀ x ∈ cs, x ≠ '\n' ∧ x ≠ '\r'

theorem advance_cons_of_ne {a : Char} (hn : a ≠ '\n') (hr : a ≠ '\r') (l c : Nat)
    (r : List Char) : advance (l, c) (a :: r) = advance (l, c + 1) r :=
  advance.eq_5 l c a r (fun _ h _ => hr h) hr hn

theorem lineEnds_cons_of_ne {a : Char} (hn : a ≠ '\n') (hr : a ≠ '\r') (l c : Nat)
    (r : List Char) : lineEnds (l, c) (a :: r) = lineEnds (l, c + 1) r :=
  lineEnds.eq_5 l c a r (fun _ h _ => hr h) hr hn

/-- Text without line ends moves along its line. -/
theorem advance_append_of_noLineEnd : ∀ {e : List Char}, NoLineEnd e → ∀ (p : Nat × Nat)
    (x : List Char), advance p (e ++ x) = advance (p.1, p.2 + e.length) x
  | [], _, p, x => by simp
  | a :: e, he, (l, c), x => by
    have ha := he a (List.mem_cons_self ..)
    rw [List.cons_append, advance_cons_of_ne ha.1 ha.2,
      advance_append_of_noLineEnd (fun y hy => he y (List.mem_cons_of_mem a hy))]
    simp only [List.length_cons]
    congr 2
    omega

/-- Text without line ends has none to list. -/
theorem lineEnds_append_of_noLineEnd : ∀ {e : List Char}, NoLineEnd e → ∀ (p : Nat × Nat)
    (x : List Char), lineEnds p (e ++ x) = lineEnds (p.1, p.2 + e.length) x
  | [], _, p, x => by simp
  | a :: e, he, (l, c), x => by
    have ha := he a (List.mem_cons_self ..)
    rw [List.cons_append, lineEnds_cons_of_ne ha.1 ha.2,
      lineEnds_append_of_noLineEnd (fun y hy => he y (List.mem_cons_of_mem a hy))]
    simp only [List.length_cons]
    congr 2
    omega

/-- The three spellings of a line end; a lone `\r` is not followed by `\n`. -/
def IsLineEnd (e x : List Char) : Prop :=
  e = ['\n'] ∨ e = ['\r', '\n'] ∨ (e = ['\r'] ∧ x.head? ≠ some '\n')

/-- A line end moves to the start of the next line, and is listed there. -/
theorem lineEnd_append {e x : List Char} (he : IsLineEnd e x) (p : Nat × Nat) :
    advance p (e ++ x) = advance (p.1 + 1, 1) x ∧ lineEnds p (e ++ x) = p :: lineEnds (p.1 + 1, 1) x := by
  obtain ⟨l, c⟩ := p
  rcases he with rfl | rfl | ⟨rfl, hx⟩
  · simp [advance, lineEnds]
  · simp [advance, lineEnds]
  · have hx' : ∀ r, x ≠ '\n' :: r := fun r h => hx (by simp [h])
    exact ⟨advance.eq_3 l c x (fun r h => hx' r h), lineEnds.eq_3 l c x (fun r h => hx' r h)⟩

/-! ## Filler and segmentations -/

/-- Text that scanning drops: spaces, tabs, line ends, and comments from `#` up
to a line end. Only the filler after the last literal (`Filler true`) may end
in a comment that runs to the end of the source. -/
inductive Filler : Bool → List Char → Prop
  | nil {final : Bool} : Filler final []
  | blank {final : Bool} {c : Char} {g : List Char} :
      (c = ' ' ∨ c = '\t') → Filler final g → Filler final (c :: g)
  | lineEnd {final : Bool} {c : Char} {g : List Char} :
      (c = '\n' ∨ c = '\r') → Filler final g → Filler final (c :: g)
  | comment {final : Bool} {body : List Char} {c : Char} {g : List Char} :
      NoLineEnd body → (c = '\n' ∨ c = '\r') → Filler final (c :: g) →
      Filler final ('#' :: body ++ c :: g)
  | commentAtEnd {body : List Char} : NoLineEnd body → Filler true ('#' :: body)

/-- The bracket depth after token `t`: `[` opens, `]` closes, and the depth
never goes below `0`. -/
def nesting (d : Nat) (t : Token) : Nat :=
  if t.kind = .lbracket then d + 1 else if t.kind = .rbracket then d - 1 else d

/-- `Segmented p d cs lits ends`: read from position `p` at bracket depth `d`,
the text `cs` is filler, the literal of the first token of `lits`, filler, the
literal of the next, and so on, ending in filler. Each literal is non-empty, on
one line, and stands at its token's position. `ends` lists the positions of the
line ends of the filler read where the depth is `0`. -/
inductive Segmented : Nat × Nat → Nat → List Char → List Token → List (Nat × Nat) → Prop
  | last {p : Nat × Nat} {d : Nat} {g : List Char} :
      Filler true g → Segmented p d g [] (if d = 0 then lineEnds p g else [])
  | cons {p : Nat × Nat} {d : Nat} {g : List Char} {t : Token} {rest : List Char}
      {ts : List Token} {ends : List (Nat × Nat)} :
      Filler false g → t.text.toList ≠ [] → NoLineEnd t.text.toList →
      t.line = (advance p g).1 → t.column = (advance p g).2 →
      Segmented (advance (advance p g) t.text.toList) (nesting d t) rest ts ends →
      Segmented p d (g ++ t.text.toList ++ rest) (t :: ts)
        ((if d = 0 then lineEnds p g else []) ++ ends)

theorem noLineEnd_of_blanks {e : List Char} (he : ∀ x ∈ e, x = ' ' ∨ x = '\t') : NoLineEnd e :=
  fun x hx => by rcases he x hx with rfl | rfl <;> decide

namespace Filler

theorem append_of_blanks : ∀ {e : List Char} {final : Bool} {g : List Char},
    (∀ x ∈ e, x = ' ' ∨ x = '\t') → Filler final g → Filler final (e ++ g)
  | [], _, _, _, hg => hg
  | a :: _, _, _, he, hg =>
    blank (he a (List.mem_cons_self ..)) (append_of_blanks (fun x hx => he x (List.mem_cons_of_mem a hx)) hg)

theorem append_of_lineEnd {e x : List Char} (he : IsLineEnd e x) {final : Bool} {g : List Char}
    (hg : Filler final g) : Filler final (e ++ g) := by
  rcases he with rfl | rfl | ⟨rfl, -⟩
  · exact lineEnd (Or.inl rfl) hg
  · exact lineEnd (Or.inr rfl) (lineEnd (Or.inl rfl) hg)
  · exact lineEnd (Or.inr rfl) hg

end Filler

namespace Segmented

/-- Blanks in front of a segmentation join its first filler. -/
theorem prepend_blank {e : List Char} (he : ∀ x ∈ e, x = ' ' ∨ x = '\t')
    {p q : Nat × Nat} (hq : q = (p.1, p.2 + e.length)) {d : Nat} {cs : List Char}
    {ts : List Token} {ends : List (Nat × Nat)} (h : Segmented q d cs ts ends) :
    Segmented p d (e ++ cs) ts ends := by
  have hnl := noLineEnd_of_blanks he
  subst hq
  cases h with
  | last hg =>
    have hs := last (p := p) (d := d) (Filler.append_of_blanks he hg)
    rwa [lineEnds_append_of_noLineEnd hnl] at hs
  | cons hg hne hlit hl hc hrest =>
    rw [← advance_append_of_noLineEnd hnl] at hl hc hrest
    have hs := cons (Filler.append_of_blanks he hg) hne hlit hl hc hrest
    rw [lineEnds_append_of_noLineEnd hnl] at hs
    simpa only [List.append_assoc] using hs

/-- A line end in front of a segmentation joins its first filler, and is
listed when the depth is `0`. -/
theorem prepend_lineEnd {e cs : List Char} (he : IsLineEnd e cs) {p q : Nat × Nat}
    (hq : q = (p.1 + 1, 1)) {d : Nat} {ts : List Token} {ends : List (Nat × Nat)}
    (h : Segmented q d cs ts ends) :
    Segmented p d (e ++ cs) ts ((if d = 0 then [p] else []) ++ ends) := by
  subst hq
  cases h with
  | last hg =>
    have hs := last (p := p) (d := d) (Filler.append_of_lineEnd he hg)
    rw [(lineEnd_append he p).2] at hs
    by_cases hd : d = 0 <;> simpa [hd] using hs
  | @cons _ _ g t rest _ _ hg hne hlit hl hc hrest =>
    -- the first filler starts the text that follows the line end
    have he' : IsLineEnd e g := by
      rcases he with h1 | h2 | ⟨h3, hx⟩
      · exact Or.inl h1
      · exact Or.inr (Or.inl h2)
      · refine Or.inr (Or.inr ⟨h3, fun hg' => hx ?_⟩)
        cases g with
        | nil => simp at hg'
        | cons a g => simpa using hg'
    obtain ⟨hadv, hends⟩ := lineEnd_append he' p
    rw [← hadv] at hl hc hrest
    have hs := cons (Filler.append_of_lineEnd he' hg) hne hlit hl hc hrest
    rw [hends] at hs
    by_cases hd : d = 0 <;> simpa [hd, List.append_assoc] using hs

/-- A comment in front of a segmentation joins its first filler: what follows
it is a line end or nothing. -/
theorem prepend_comment {body cs : List Char} (hb : NoLineEnd body)
    (hnext : ∀ x ∈ cs.head?, x = '\n' ∨ x = '\r') {p q : Nat × Nat}
    (hq : q = (p.1, p.2 + (body.length + 1))) {d : Nat} {ts : List Token}
    {ends : List (Nat × Nat)} (h : Segmented q d cs ts ends) :
    Segmented p d (('#' :: body) ++ cs) ts ends := by
  have hnl : NoLineEnd ('#' :: body) := by
    intro x hx
    rcases List.mem_cons.1 hx with rfl | hx
    · decide
    · exact hb x hx
  subst hq
  cases h with
  | last hg =>
    have hfill : Filler true ('#' :: body ++ cs) := by
      cases cs with
      | nil => simpa using Filler.commentAtEnd hb
      | cons c g => exact Filler.comment hb (hnext c rfl) hg
    have hs := last (p := p) (d := d) hfill
    rwa [lineEnds_append_of_noLineEnd hnl] at hs
  | @cons _ _ g t rest _ _ hg hne hlit hl hc hrest =>
    -- a literal cannot follow a comment directly: it would continue the line
    cases g with
    | nil =>
      obtain ⟨a, lit, hlit'⟩ := List.exists_cons_of_ne_nil hne
      have ha := hlit a (by simp [hlit'])
      have := hnext a (by simp [hlit'])
      rcases this with rfl | rfl
      · exact absurd rfl ha.1
      · exact absurd rfl ha.2
    | cons c g =>
      have hfill : Filler false ('#' :: body ++ c :: g) := Filler.comment hb (hnext c rfl) hg
      have hlen : body.length + 1 = ('#' :: body).length := rfl
      rw [hlen, ← advance_append_of_noLineEnd hnl] at hl hc hrest
      have hs := cons hfill hne hlit hl hc hrest
      rw [lineEnds_append_of_noLineEnd hnl] at hs
      simpa only [List.append_assoc, List.cons_append, List.length_cons] using hs

end Segmented

/-! ## What one piece can be -/

namespace Piece

/-- What a piece of scanned text can be, given the text `r` after it: a
literal is non-empty, on one line, and neither a line end nor the end of input;
blanks are spaces and tabs; a comment runs from `#` to a line end or to the end
of the text. -/
def Valid : Piece → List Char → Prop
  | .token k t, _ => t ≠ [] ∧ NoLineEnd t ∧ k ≠ .newline ∧ k ≠ .eof
  | .lineEnd t, r => IsLineEnd t r
  | .blank t, _ => t ≠ [] ∧ ∀ x ∈ t, x = ' ' ∨ x = '\t'
  | .comment t, r =>
    (∃ body, t = '#' :: body ∧ NoLineEnd body) ∧ ∀ x ∈ r.head?, x = '\n' ∨ x = '\r'

theorem punctuation_kind {c : Char} {k : TokenKind} (h : punctuation c = some k) :
    k ≠ .newline ∧ k ≠ .eof := by
  unfold punctuation at h
  split at h <;> cases h <;> decide

theorem ofWord_kind (w : String) : TokenKind.ofWord w ≠ .newline ∧ TokenKind.ofWord w ≠ .eof := by
  unfold TokenKind.ofWord
  split <;> decide

/-- The characters a run keeps satisfy what it keeps them by, and none of them
is a line end when no line end does. -/
theorem noLineEnd_takeWhile {p : Char → Bool} (hp : p '\n' = false ∧ p '\r' = false)
    (l : List Char) : NoLineEnd (l.takeWhile p) := by
  intro x hx
  have hpx : p x = true := List.mem_takeWhile_imp hx
  constructor
  · rintro rfl
    simp [hp.1] at hpx
  · rintro rfl
    simp [hp.2] at hpx

/-- **What a piece can be.** The piece and what follows it make up the text it
was read from, and the piece is `Valid`. -/
theorem next_spec {c : Char} {rest r : List Char} {p : Piece} (h : next c rest = .ok (p, r)) :
    c :: rest = p.text ++ r ∧ p.Valid r := by
  unfold next at h
  by_cases hn : c = '\n'
  · simp only [hn, if_true, Except.ok.injEq, Prod.mk.injEq] at h
    obtain ⟨rfl, rfl⟩ := h
    exact ⟨by simp [hn, text], Or.inl rfl⟩
  rw [if_neg hn] at h
  by_cases hr : c = '\r'
  · rw [if_pos hr] at h
    split at h
    · simp only [Except.ok.injEq, Prod.mk.injEq] at h
      obtain ⟨rfl, rfl⟩ := h
      exact ⟨by simp [hr, text], Or.inr (Or.inl rfl)⟩
    · rename_i hnot
      simp only [Except.ok.injEq, Prod.mk.injEq] at h
      obtain ⟨rfl, rfl⟩ := h
      refine ⟨by simp [hr, text], Or.inr (Or.inr ⟨rfl, ?_⟩)⟩
      intro hhead
      cases rest with
      | nil => simp at hhead
      | cons a r' =>
        simp only [List.head?_cons, Option.some.injEq] at hhead
        exact hnot r' (by rw [hhead])
  rw [if_neg hr] at h
  have hc : c ≠ '\n' ∧ c ≠ '\r' := ⟨hn, hr⟩
  by_cases hb : isBlank c = true
  · rw [if_pos hb] at h
    simp only [Except.ok.injEq, Prod.mk.injEq] at h
    obtain ⟨rfl, rfl⟩ := h
    refine ⟨by simp [text, List.takeWhile_append_dropWhile], List.cons_ne_nil _ _, ?_⟩
    intro x hx
    rcases List.mem_cons.1 hx with rfl | hx
    · simpa [isBlank] using hb
    · simpa [isBlank] using List.mem_takeWhile_imp hx
  rw [if_neg hb] at h
  by_cases hh : c = '#'
  · rw [if_pos hh] at h
    simp only [Except.ok.injEq, Prod.mk.injEq] at h
    obtain ⟨rfl, rfl⟩ := h
    refine ⟨by simp [text, List.takeWhile_append_dropWhile], ⟨_, by rw [hh], ?_⟩, ?_⟩
    · exact noLineEnd_takeWhile (by decide) rest
    · intro x hx
      have hnot := List.head?_dropWhile_not (fun x => !isLineEnd x) rest
      rw [hx] at hnot
      exact or_iff_not_imp_left.2 (by simpa [isLineEnd] using hnot)
  rw [if_neg hh] at h
  split at h
  · -- punctuation
    rename_i k hk
    simp only [Except.ok.injEq, Prod.mk.injEq] at h
    obtain ⟨rfl, rfl⟩ := h
    refine ⟨rfl, List.cons_ne_nil _ _, ?_, punctuation_kind hk⟩
    intro x hx
    rw [List.mem_singleton.1 hx]
    exact hc
  by_cases hq : c = '"' ∨ c = '\''
  · -- a string runs to the same quote
    rw [if_pos hq] at h
    split at h
    · rename_i q r' hdrop
      split at h
      · rename_i hqc
        simp only [Except.ok.injEq, Prod.mk.injEq] at h
        obtain ⟨rfl, rfl⟩ := h
        refine ⟨?_, by simp, ?_, by decide, by decide⟩
        · have hsplit := (List.takeWhile_append_dropWhile (p := inString c) (l := rest)).symm
          rw [hdrop, hqc] at hsplit
          simp [text, ← hsplit]
        · intro x hx
          simp only [List.mem_cons, List.mem_append] at hx
          rcases hx with (rfl | hx) | hx
          · exact hc
          · have hin := List.mem_takeWhile_imp hx
            simp only [inString, isLineEnd, bne_iff_ne, ne_eq, Bool.and_eq_true,
              Bool.not_eq_eq_eq_not, Bool.not_true, Bool.or_eq_false_iff,
              decide_eq_false_iff_not] at hin
            exact hin.2
          · rcases hx with rfl | hx
            · exact hc
            · cases hx
      · cases h
    · cases h
  rw [if_neg hq] at h
  by_cases hd : c.isDigit = true
  · rw [if_pos hd] at h
    simp only [Except.ok.injEq, Prod.mk.injEq] at h
    obtain ⟨rfl, rfl⟩ := h
    refine ⟨by simp [text, List.takeWhile_append_dropWhile], List.cons_ne_nil _ _, ?_,
      by decide, by decide⟩
    intro x hx
    rcases List.mem_cons.1 hx with rfl | hx
    · exact hc
    · exact noLineEnd_takeWhile (by decide) rest x hx
  rw [if_neg hd] at h
  by_cases hw : Text.isLetter c = true ∨ c = '_'
  · rw [if_pos hw] at h
    simp only [Except.ok.injEq, Prod.mk.injEq] at h
    obtain ⟨rfl, rfl⟩ := h
    refine ⟨by simp [text, List.takeWhile_append_dropWhile], List.cons_ne_nil _ _, ?_,
      ofWord_kind _⟩
    intro x hx
    rcases List.mem_cons.1 hx with rfl | hx
    · exact hc
    · exact noLineEnd_takeWhile (by decide) rest x hx
  · rw [if_neg hw] at h
    cases h

end Piece

/-! ## Scanning, one piece at a time -/

theorem map_cons_eq_ok {ε : Type} {x : Except ε (List Token)} {t : Token} {ts : List Token}
    (h : x.map (t :: ·) = .ok ts) : ∃ ts', x = .ok ts' ∧ ts = t :: ts' := by
  cases x with
  | error e => cases h
  | ok ts' =>
    simp only [Except.map, Except.ok.injEq] at h
    exact ⟨ts', rfl, h.symm⟩

/-- A literal of a token list: a token other than a line end or the end of
input. -/
def literal (t : Token) : Bool := t.kind != .newline && t.kind != .eof

/-- The line and column of a token. -/
def position (t : Token) : Nat × Int := (t.line, t.column)

/-- **Scanning segments what it reads.** From position `(line, col)` at bracket
depth `d`, the literals of the tokens and the filler between them make up the
text, and the `newline` tokens stand at the line ends read at depth `0`. -/
theorem scanFrom_segmented {d line col pending : Nat} {cs : List Char} {ts : List Token}
    (h : scanFrom d line col pending cs = .ok ts) :
    ∃ ends, Segmented (line, col) d cs (ts.filter literal) ends ∧
      (ts.filter (·.kind == .newline)).map position = ends.map fun q => (q.1, (q.2 : Int)) := by
  fun_induction scanFrom d line col pending cs generalizing ts with
  | case1 d line col pending =>
    cases h
    refine ⟨_, Segmented.last (d := d) Filler.nil, ?_⟩
    simp [endToken, lineEnds]
  | case2 => cases h
  | case3 => cases h
  | case4 d line col pending c rest k text r hn d' =>
    rename_i ih
    obtain ⟨hsplit, hne, hnl, hk1, hk2⟩ := Piece.next_spec hn
    obtain ⟨ts', h', rfl⟩ := map_cons_eq_ok h
    obtain ⟨ends, hseg, hends⟩ := ih h'
    let t : Token := ⟨k, String.ofList text, line, col⟩
    have hd' : d' = nesting d t := by simp [d', t, nesting]
    have hlit : literal t = true := by simp [literal, t, hk1, hk2]
    -- the literal goes in front, with no filler before it
    have hadv : advance (advance (line, col) []) t.text.toList = (line, col + text.length) := by
      simpa [advance, t] using advance_append_of_noLineEnd hnl (line, col) []
    have hs := Segmented.cons (p := (line, col)) (d := d) (t := t) Filler.nil
      (by simpa [t] using hne) (by simpa [t] using hnl) rfl rfl (by rw [hadv, ← hd']; exact hseg)
    refine ⟨ends, ?_, ?_⟩
    · rw [hsplit, List.filter_cons_of_pos hlit]
      simpa [Piece.text, lineEnds, t] using hs
    · simpa [t, hk1] using hends
  | case5 line col pending c rest text r hn ih =>
    obtain ⟨hsplit, he⟩ := Piece.next_spec hn
    obtain ⟨ts', h', rfl⟩ := map_cons_eq_ok h
    obtain ⟨ends, hseg, hends⟩ := ih h'
    refine ⟨(line, col) :: ends, ?_, ?_⟩
    · rw [hsplit]
      simpa [literal, Piece.text] using Segmented.prepend_lineEnd (p := (line, col)) he rfl hseg
    · simpa [position] using hends
  | case6 d line col pending c rest text r hn hd ih =>
    obtain ⟨hsplit, he⟩ := Piece.next_spec hn
    obtain ⟨ends, hseg, hends⟩ := ih h
    refine ⟨ends, ?_, hends⟩
    rw [hsplit]
    simpa [hd, Piece.text] using Segmented.prepend_lineEnd (p := (line, col)) he rfl hseg
  | case7 d line col pending c rest text r hn ih =>
    obtain ⟨hsplit, -, hblank⟩ := Piece.next_spec hn
    obtain ⟨ends, hseg, hends⟩ := ih h
    refine ⟨ends, ?_, hends⟩
    rw [hsplit]
    exact Segmented.prepend_blank hblank rfl hseg
  | case8 d line col pending c rest text r hn ih =>
    obtain ⟨hsplit, ⟨body, rfl, hbody⟩, hnext⟩ := Piece.next_spec hn
    obtain ⟨ends, hseg, hends⟩ := ih h
    refine ⟨ends, ?_, hends⟩
    rw [hsplit]
    exact Segmented.prepend_comment hbody hnext (by simp) hseg

/-- **Scanning ends at the end of input.** The token list ends with its only
`eof` token, on the line reached after the line ends of the text. -/
theorem scanFrom_eof {d line col pending : Nat} {cs : List Char} {ts : List Token}
    (h : scanFrom d line col pending cs = .ok ts) :
    ∃ pre e, ts = pre ++ [e] ∧ e.kind = .eof ∧ e.line = line + (lineEnds (line, col) cs).length ∧
      ∀ t ∈ pre, t.kind ≠ .eof := by
  fun_induction scanFrom d line col pending cs generalizing ts with
  | case1 d line col pending =>
    cases h
    exact ⟨[], _, rfl, rfl, by simp [endToken, lineEnds], by simp⟩
  | case2 => cases h
  | case3 => cases h
  | case4 d line col pending c rest k text r hn d' =>
    rename_i ih
    obtain ⟨hsplit, -, hnl, -, hk⟩ := Piece.next_spec hn
    obtain ⟨ts', h', rfl⟩ := map_cons_eq_ok h
    obtain ⟨pre, e, rfl, he, hline, hpre⟩ := ih h'
    refine ⟨_ :: pre, e, rfl, he, ?_, ?_⟩
    · rw [hsplit, hline, Piece.text, lineEnds_append_of_noLineEnd hnl]
    · intro t ht
      rcases List.mem_cons.1 ht with rfl | ht
      · exact hk
      · exact hpre t ht
  | case5 line col pending c rest text r hn ih =>
    obtain ⟨hsplit, he⟩ := Piece.next_spec hn
    obtain ⟨ts', h', rfl⟩ := map_cons_eq_ok h
    obtain ⟨pre, e, rfl, hk, hline, hpre⟩ := ih h'
    refine ⟨_ :: pre, e, rfl, hk, ?_, ?_⟩
    · rw [hsplit, Piece.text, (lineEnd_append he (line, col)).2, hline, List.length_cons]
      dsimp only
      omega
    · intro t ht
      rcases List.mem_cons.1 ht with rfl | ht
      · simp
      · exact hpre t ht
  | case6 d line col pending c rest text r hn hd ih =>
    obtain ⟨hsplit, he⟩ := Piece.next_spec hn
    obtain ⟨pre, e, rfl, hk, hline, hpre⟩ := ih h
    refine ⟨pre, e, rfl, hk, ?_, hpre⟩
    rw [hsplit, Piece.text, (lineEnd_append he (line, col)).2, hline, List.length_cons]
    dsimp only
    omega
  | case7 d line col pending c rest text r hn ih =>
    obtain ⟨hsplit, -, hblank⟩ := Piece.next_spec hn
    obtain ⟨pre, e, rfl, hk, hline, hpre⟩ := ih h
    refine ⟨pre, e, rfl, hk, ?_, hpre⟩
    rw [hsplit, Piece.text, lineEnds_append_of_noLineEnd (noLineEnd_of_blanks hblank), hline]
  | case8 d line col pending c rest text r hn ih =>
    obtain ⟨hsplit, ⟨body, rfl, hbody⟩, -⟩ := Piece.next_spec hn
    have hnl : NoLineEnd ('#' :: body) := by
      intro x hx
      rcases List.mem_cons.1 hx with rfl | hx
      · decide
      · exact hbody x hx
    obtain ⟨pre, e, rfl, hk, hline, hpre⟩ := ih h
    refine ⟨pre, e, rfl, hk, ?_, hpre⟩
    rw [hsplit, Piece.text, lineEnds_append_of_noLineEnd hnl, hline]

/-! ## Order of the literals -/

/-- Token `a` stands before token `b`: on an earlier line, or on the same line
at an earlier column. -/
def Before (a b : Token) : Prop := a.line < b.line ∨ (a.line = b.line ∧ a.column < b.column)

/-- Reading never moves back. -/
theorem advance_reaches (p : Nat × Nat) (x : List Char) :
    p.1 < (advance p x).1 ∨ (p.1 = (advance p x).1 ∧ p.2 ≤ (advance p x).2) := by
  fun_induction advance p x <;> omega

/-- Reading a character moves on. -/
theorem advance_passes {x : List Char} (hx : x ≠ []) (p : Nat × Nat) :
    p.1 < (advance p x).1 ∨ (p.1 = (advance p x).1 ∧ p.2 < (advance p x).2) := by
  fun_induction advance p x with
  | case1 => exact absurd rfl hx
  | case5 l c a r _ _ _ =>
    have := advance_reaches (l, c + 1) r
    omega
  | _ l _ r =>
    have := advance_reaches (l + 1, 1) r
    omega

/-- The literals of a segmentation stand at or after its start, in strictly
increasing positions. -/
theorem Segmented.ordered {p : Nat × Nat} {d : Nat} {cs : List Char} {ts : List Token}
    {ends : List (Nat × Nat)} (h : Segmented p d cs ts ends) :
    (∀ t ∈ ts, p.1 < t.line ∨ (p.1 = t.line ∧ (p.2 : Int) ≤ t.column)) ∧ ts.Pairwise Before := by
  induction h with
  | last => simp
  | @cons p d g t rest ts ends _ hne _ hl hc _ ih =>
    obtain ⟨hafter, hpair⟩ := ih
    -- `t` stands where the filler ends; the rest starts after its literal
    have h1 := advance_reaches p g
    have h2 := advance_passes hne (advance p g)
    refine ⟨?_, List.Pairwise.cons (fun t' ht' => ?_) hpair⟩
    · intro t' ht'
      rcases List.mem_cons.1 ht' with rfl | ht'
      · omega
      · have := hafter t' ht'
        omega
    · have := hafter t' ht'
      unfold Before
      omega

/-! ## The whole source -/

/-- What a token list says about the source text it was scanned from. -/
structure Faithful (s : String) (ts : List Token) : Prop where
  /-- The list ends with its only `eof` token, on the line after the last line
  end of the source. -/
  eof_last : ∃ pre e, ts = pre ++ [e] ∧ e.kind = .eof ∧
    e.line = 1 + (lineEnds (1, 1) s.toList).length ∧ ∀ t ∈ pre, t.kind ≠ .eof
  /-- The literals stand in strictly increasing positions. -/
  ordered : (ts.filter literal).Pairwise Before
  /-- The literals and the filler between them make up the source, each
  literal at its position; the `newline` tokens stand exactly at the line ends
  of the filler read where the bracket depth is `0`. -/
  segmented : ∃ ends, Segmented (1, 1) 0 s.toList (ts.filter literal) ends ∧
    (ts.filter (·.kind == .newline)).map position = ends.map fun q => (q.1, (q.2 : Int))

/-- **Scanning segments the source faithfully.** -/
theorem scan_faithful {s : String} {ts : List Token} (h : scan s = .ok ts) : Faithful s ts := by
  obtain ⟨ends, hseg, hends⟩ := scanFrom_segmented h
  exact ⟨scanFrom_eof h, hseg.ordered.2, ends, hseg, hends⟩

/-- A list spread over two lines, a comment, a `\r\n` line end and a last
word: the line end inside the brackets gives no token. -/
theorem scan_faithful_bracketedList :
    ∃ ts, scan "[a,\n b] # x\r\nc" = .ok ts ∧ Faithful "[a,\n b] # x\r\nc" ts := by
  have hsome : (scan "[a,\n b] # x\r\nc").toOption.isSome = true := by decide +kernel
  obtain ⟨ts, hts⟩ := Option.isSome_iff_exists.1 hsome
  have hok : scan "[a,\n b] # x\r\nc" = .ok ts := by
    revert hts
    cases scan "[a,\n b] # x\r\nc" <;> simp [Except.toOption]
  exact ⟨ts, hok, scan_faithful hok⟩

end UiLang.Token
