import UiLang.Proofs.Segmentation

/-!
# The texts of tokens

Each kind of token is written in one way (`Lexical`): a word for identifiers,
keywords and booleans, a run of ASCII digits for numbers, a quoted run of
characters for strings, and one character for punctuation. Scanning makes only
such tokens (`scan_lexical`), and a text written token by token, with a blank
where two words would run together, scans back into those tokens
(`scanFrom_spell`): this is the half of a printer that is about characters.
-/

namespace UiLang.Token

/-- A token without its position: its kind and its text. -/
abbrev Lexeme := TokenKind × String

/-- The kind and text of a token. -/
def lex (t : Token) : Lexeme := (t.kind, t.text)

/-! ## Words and the texts of each kind -/

/-- Characters that may start a word. -/
def isWordStart (c : Char) : Bool := Text.isLetter c || c = '_'

/-- A word: a letter or `_`, then letters, ASCII digits and `_`. -/
def IsWord : List Char → Prop
  | [] => False
  | c :: cs => isWordStart c = true ∧ ∀ x ∈ cs, isWordChar x = true

/-- The kinds whose tokens are words: identifiers, keywords and booleans. -/
def wordKind : TokenKind → Bool
  | .boolean | .identifier | .baseComponent | .withKw | .asKw => true
  | _ => false

/-- The texts a token of each kind has. -/
def Lexical (k : TokenKind) (t : List Char) : Prop :=
  match k with
  | .eof | .newline => t = []
  | .string =>
    ∃ q body, (q = '"' ∨ q = '\'') ∧ (∀ x ∈ body, inString q x = true) ∧ t = q :: body ++ [q]
  | .number => t ≠ [] ∧ ∀ x ∈ t, x.isDigit = true
  | .boolean | .identifier | .baseComponent | .withKw | .asKw =>
    IsWord t ∧ TokenKind.ofWord (String.ofList t) = k
  | _ => ∃ c, t = [c] ∧ punctuation c = some k

/-- The characters that end a word, a number or a blank, or start something
else than a word. -/
def delimiters : List Char :=
  ['\n', '\r', ' ', '\t', '#', ':', ',', '.', '=', '(', ')', '[', ']', '+', '-', '*', '/',
    '"', '\'']

/-- A property of every delimiter, checked character by character. -/
theorem forall_delimiters (p : Char → Prop) [DecidablePred p]
    (h : delimiters.all (fun c => decide (p c)) = true) : ∀ c ∈ delimiters, p c :=
  fun c hc => of_decide_eq_true (List.all_eq_true.1 h c hc)

theorem not_wordStart_of_delimiter : ∀ c ∈ delimiters, isWordStart c = false :=
  forall_delimiters _ (by decide)

theorem not_wordChar_of_delimiter : ∀ c ∈ delimiters, isWordChar c = false :=
  forall_delimiters _ (by decide)

theorem not_isDigit_of_delimiter : ∀ c ∈ delimiters, c.isDigit = false :=
  forall_delimiters _ (by decide)

theorem punctuation_delimiter {c : Char} {k : TokenKind} (h : punctuation c = some k) :
    c ∈ delimiters := by
  unfold punctuation at h
  split at h
  -- a character that is no punctuation has no kind
  case h_13 => cases h
  all_goals decide

/-- A word start is none of the characters that scanning tests before words. -/
theorem ne_of_wordStart {c x : Char} (hc : isWordStart c = true) (hx : x ∈ delimiters) :
    c ≠ x := by
  rintro rfl
  rw [not_wordStart_of_delimiter c hx] at hc
  cases hc

/-- ASCII digits lie below the letters. -/
theorem isDigit_of_wordStart {c : Char} (hc : isWordStart c = true) : c.isDigit = false := by
  cases hd : c.isDigit with
  | false => rfl
  | true =>
    exfalso
    simp only [Char.isDigit, Bool.and_eq_true, decide_eq_true_eq, ge_iff_le,
      UInt32.le_iff_toNat_le] at hd
    have h48 : ('0' : Char).val.toNat = 48 := rfl
    have h57 : ('9' : Char).val.toNat = 57 := rfl
    rw [h48, h57] at hd
    have hlt : c.val < 128 := by
      rw [UInt32.lt_iff_toNat_lt]
      simp only [UInt32.reduceToNat]
      omega
    simp only [isWordStart, Text.isLetter, hlt, if_true] at hc
    -- opened by their bodies, so that no equation lemma of the library is made here
    delta Char.isAlpha Char.isUpper Char.isLower at hc
    simp only [Bool.or_eq_true, decide_eq_true_eq, Bool.and_eq_true, ge_iff_le,
      UInt32.le_iff_toNat_le] at hc
    rcases hc with (⟨h1, -⟩ | ⟨h1, -⟩) | h
    · have : ('A' : Char).val.toNat = 65 := rfl
      omega
    · have : ('a' : Char).val.toNat = 97 := rfl
      omega
    · subst h
      simp at hd

/-- A digit is none of the characters that scanning tests before numbers. -/
theorem ne_of_isDigit {c x : Char} (hc : c.isDigit = true) (hx : x ∈ delimiters) : c ≠ x := by
  rintro rfl
  rw [not_isDigit_of_delimiter c hx] at hc
  cases hc

/-! ## Reading one token back -/

theorem takeWhile_of_head {p : Char → Bool} {r : List Char} (h : ∀ x ∈ r.head?, p x = false) :
    r.takeWhile p = [] := by
  cases r with
  | nil => rfl
  | cons x r => simp [h x rfl]

theorem dropWhile_of_head {p : Char → Bool} {r : List Char} (h : ∀ x ∈ r.head?, p x = false) :
    r.dropWhile p = r := by
  cases r with
  | nil => rfl
  | cons x r => simp [h x rfl]

/-- A word followed by a character that cannot go on a word is read as one token,
a keyword, a boolean or an identifier as `ofWord` says. -/
theorem next_word {c : Char} {cs r : List Char} (hw : IsWord (c :: cs))
    (hr : ∀ x ∈ r.head?, isWordChar x = false) :
    Piece.next c (cs ++ r) =
      .ok (.token (TokenKind.ofWord (String.ofList (c :: cs))) (c :: cs), r) := by
  obtain ⟨hc, hcs⟩ := hw
  have hpunct : punctuation c = none := by
    cases hp : punctuation c with
    | none => rfl
    | some k => exact absurd rfl (ne_of_wordStart hc (punctuation_delimiter hp))
  have hletter : Text.isLetter c = true ∨ c = '_' := by
    simpa [isWordStart] using hc
  simp only [Piece.next, ne_of_wordStart hc (x := '\n') (by decide),
    ne_of_wordStart hc (x := '\r') (by decide), ne_of_wordStart hc (x := '#') (by decide),
    ne_of_wordStart hc (x := '"') (by decide), ne_of_wordStart hc (x := '\'') (by decide),
    isDigit_of_wordStart hc, hpunct, if_false, hletter, if_true, or_self,
    List.takeWhile_append_of_pos hcs, List.dropWhile_append_of_pos hcs, takeWhile_of_head hr,
    dropWhile_of_head hr, List.append_nil]
  have hblank : isBlank c = false := by
    simp [isBlank, ne_of_wordStart hc (x := ' ') (by decide),
      ne_of_wordStart hc (x := '\t') (by decide)]
  simp [hblank]

/-- A number followed by a character that is no digit is read as one token. -/
theorem next_number {c : Char} {cs r : List Char} (hc : c.isDigit = true)
    (hcs : ∀ x ∈ cs, x.isDigit = true) (hr : ∀ x ∈ r.head?, x.isDigit = false) :
    Piece.next c (cs ++ r) = .ok (.token .number (c :: cs), r) := by
  have hpunct : punctuation c = none := by
    cases hp : punctuation c with
    | none => rfl
    | some k => exact absurd rfl (ne_of_isDigit hc (punctuation_delimiter hp))
  have hblank : isBlank c = false := by
    simp [isBlank, ne_of_isDigit hc (x := ' ') (by decide),
      ne_of_isDigit hc (x := '\t') (by decide)]
  simp [Piece.next, ne_of_isDigit hc (x := '\n') (by decide),
    ne_of_isDigit hc (x := '\r') (by decide), ne_of_isDigit hc (x := '#') (by decide),
    ne_of_isDigit hc (x := '"') (by decide), ne_of_isDigit hc (x := '\'') (by decide),
    hblank, hpunct, hc, List.takeWhile_append_of_pos hcs, List.dropWhile_append_of_pos hcs,
    takeWhile_of_head hr, dropWhile_of_head hr]

/-- A string reads up to the first copy of its quote. -/
theorem next_string {q : Char} {body r : List Char} (hq : q = '"' ∨ q = '\'')
    (hbody : ∀ x ∈ body, inString q x = true) :
    Piece.next q (body ++ q :: r) = .ok (.token .string (q :: body ++ [q]), r) := by
  have hstop : inString q q = false := by simp [inString]
  rcases hq with rfl | rfl <;>
    simp [Piece.next, isBlank, punctuation, List.takeWhile_append_of_pos hbody,
      List.dropWhile_append_of_pos hbody, hstop]

theorem next_punctuation {c : Char} {k : TokenKind} (h : punctuation c = some k)
    (r : List Char) : Piece.next c r = .ok (.token k [c], r) := by
  have hd := punctuation_delimiter h
  simp only [delimiters, List.mem_cons, List.not_mem_nil, or_false] at hd
  rcases hd with rfl | rfl | rfl | rfl | rfl | rfl | rfl | rfl | rfl | rfl | rfl | rfl | rfl |
    rfl | rfl | rfl | rfl | rfl | rfl <;> simp_all [punctuation, Piece.next, isBlank]

/-- **Reading a token back.** The text of a token of kind `k`, followed by a
character that cannot go on a word or a number when the token is one, is read
as that token. -/
theorem next_of_lexical {k : TokenKind} {c : Char} {cs r : List Char}
    (hl : Lexical k (c :: cs))
    (hr : wordKind k = true ∨ k = .number → ∀ x ∈ r.head?, isWordChar x = false) :
    Piece.next c (cs ++ r) = .ok (.token k (c :: cs), r) := by
  cases k
  case eof | newline => cases hl
  case string =>
    obtain ⟨q, body, hq, hbody, ht⟩ := hl
    simp only [List.cons_append, List.cons.injEq] at ht
    obtain ⟨rfl, rfl⟩ := ht
    simpa using next_string hq hbody (r := r)
  case number =>
    obtain ⟨-, hd⟩ := hl
    refine next_number (hd c (by simp)) (fun x hx => hd x (by simp [hx])) ?_
    intro x hx
    have hw := hr (Or.inr rfl) x hx
    simp only [isWordChar, Bool.or_eq_false_iff] at hw
    exact hw.1.2
  case boolean | identifier | baseComponent | withKw | asKw =>
    obtain ⟨hw, hk⟩ := hl
    have hnext := next_word hw (hr (Or.inl rfl))
    rwa [hk] at hnext
  -- the punctuation kinds
  all_goals
    obtain ⟨c', ht, hp⟩ := hl
    simp only [List.cons.injEq] at ht
    obtain ⟨rfl, rfl⟩ := ht
    simpa using next_punctuation hp r

/-! ## Scanning one piece -/

/-- The bracket depth after a token of kind `k`. -/
def nextDepth (d : Nat) (k : TokenKind) : Nat :=
  if k = .lbracket then d + 1 else if k = .rbracket then d - 1 else d

theorem scanFrom_token {d line col pend : Nat} {c : Char} {rest r : List Char} {k : TokenKind}
    {text : List Char} (hn : Piece.next c rest = .ok (.token k text, r)) :
    scanFrom d line col pend (c :: rest) =
      (scanFrom (nextDepth d k) line (col + text.length) 0 r).map
        (⟨k, String.ofList text, line, col⟩ :: ·) := by
  rw [scanFrom]
  split <;> simp_all [nextDepth]

theorem scanFrom_lineEnd {line col pend : Nat} {c : Char} {rest r text : List Char}
    (hn : Piece.next c rest = .ok (.lineEnd text, r)) :
    scanFrom 0 line col pend (c :: rest) =
      (scanFrom 0 (line + 1) 1 0 r).map (⟨.newline, "", line, col⟩ :: ·) := by
  rw [scanFrom]
  split <;> simp_all

theorem scanFrom_blank {d line col pend : Nat} {c : Char} {rest r text : List Char}
    (hn : Piece.next c rest = .ok (.blank text, r)) :
    scanFrom d line col pend (c :: rest) = scanFrom d line (col + text.length) text.length r := by
  rw [scanFrom]
  split <;> simp_all

/-! ## Writing lexemes out -/

/-- The characters a lexeme is written with: a line end for `newline`, else its
text. -/
def Lexeme.chars (x : Lexeme) : List Char := if x.1 = .newline then ['\n'] else x.2.toList

/-- The kinds written right after what they follow: closing brackets, a comma, a
dot, a colon, an opening parenthesis and a line end. -/
def closes : TokenKind → Bool
  | .rparen | .rbracket | .comma | .dot | .colon | .lparen | .newline => true
  | _ => false

/-- The kinds written right before what follows them: opening brackets, a dot
and a line end. -/
def opens : TokenKind → Bool
  | .lparen | .lbracket | .dot | .newline => true
  | _ => false

/-- Whether a blank is written between lexemes of kinds `x` and `y`. -/
def spaced (x y : TokenKind) : Bool := !closes y && !opens x

/-- The blank written after a lexeme of kind `x`, before the lexemes `rest`. -/
def gapBefore (x : TokenKind) : List Lexeme → List Char
  | y :: _ => if spaced x y.1 then [' '] else []
  | [] => []

/-- Source text written lexeme by lexeme. -/
def spell : List Lexeme → List Char
  | [] => []
  | x :: rest => x.chars ++ gapBefore x.1 rest ++ spell rest

/-- Line ends stand outside brackets: every `newline` of the lexemes, read from
bracket depth `d`, is at depth `0`. -/
def Flat : Nat → List Lexeme → Prop
  | _, [] => True
  | d, x :: rest => (x.1 = .newline → d = 0) ∧ Flat (nextDepth d x.1) rest

/-- A lexeme other than the end of input is written with at least one
character. -/
theorem chars_eq_cons {x : Lexeme} (hx : Lexical x.1 x.2.toList) (he : x.1 ≠ .eof) :
    ∃ c cs, x.chars = c :: cs := by
  obtain ⟨k, t⟩ := x
  by_cases hn : k = .newline
  · exact ⟨'\n', [], by simp [Lexeme.chars, hn]⟩
  simp only [Lexeme.chars, hn, if_false]
  cases ht : t.toList with
  | cons c cs => exact ⟨c, cs, rfl⟩
  | nil =>
    rw [ht] at hx
    cases k <;> simp_all [Lexical, IsWord]

theorem isBlank_of_wordStart {c : Char} (hc : isWordStart c = true) : isBlank c = false := by
  simp [isBlank, ne_of_wordStart hc (x := ' ') (by decide),
    ne_of_wordStart hc (x := '\t') (by decide)]

theorem isBlank_of_isDigit {c : Char} (hc : c.isDigit = true) : isBlank c = false := by
  simp [isBlank, ne_of_isDigit hc (x := ' ') (by decide), ne_of_isDigit hc (x := '\t') (by decide)]

theorem isBlank_of_punctuation {c : Char} {k : TokenKind} (h : punctuation c = some k) :
    isBlank c = false := by
  have hall : ∀ c ∈ delimiters, (punctuation c).isSome = true → isBlank c = false :=
    forall_delimiters _ (by decide)
  exact hall c (punctuation_delimiter h) (by simp [h])

/-- No lexeme is written starting with a blank. -/
theorem not_blank_head {x : Lexeme} (hx : Lexical x.1 x.2.toList) :
    ∀ h ∈ x.chars.head?, isBlank h = false := by
  obtain ⟨k, t⟩ := x
  intro h hh
  by_cases hn : k = .newline
  · subst hn
    simp only [Lexeme.chars, if_true, List.head?_cons, Option.mem_def,
      Option.some.injEq] at hh
    subst hh
    decide
  simp only [Lexeme.chars, hn, if_false] at hh
  cases k
  case newline => exact absurd rfl hn
  case eof =>
    simp only [Lexical] at hx
    simp [hx] at hh
  case string =>
    obtain ⟨q, body, hq, -, ht⟩ := hx
    simp only [ht, List.cons_append, List.head?_cons, Option.mem_def, Option.some.injEq] at hh
    subst hh
    rcases hq with rfl | rfl <;> decide
  case number =>
    obtain ⟨-, hd⟩ := hx
    exact isBlank_of_isDigit (hd h (List.mem_of_mem_head? hh))
  case boolean | identifier | baseComponent | withKw | asKw =>
    obtain ⟨hw, -⟩ := hx
    cases ht : t.toList with
    | nil => simp [ht, IsWord] at hw
    | cons c cs =>
      simp only [ht, List.head?_cons, Option.mem_def, Option.some.injEq] at hh hw
      subst hh
      exact isBlank_of_wordStart hw.1
  -- the punctuation kinds
  all_goals
    obtain ⟨c, ht, hp⟩ := hx
    simp only [ht, List.head?_cons, Option.mem_def, Option.some.injEq] at hh
    subst hh
    exact isBlank_of_punctuation hp

/-- The kinds of punctuation are written with one character. -/
theorem lexical_punctuation {c : Char} {k : TokenKind} (hc : punctuation c = some k)
    {t : List Char} : Lexical k t ↔ ∃ c', t = [c'] ∧ punctuation c' = some k := by
  have hmem := punctuation_delimiter hc
  cases k
  case colon | comma | dot | equals | lparen | rparen | lbracket | rbracket | arithOp => exact Iff.rfl
  -- the kinds that no character is punctuation for are ruled out character by character
  case eof | newline | string | number | boolean | identifier | baseComponent | withKw | asKw =>
    exact (forall_delimiters (fun c => punctuation c ≠ some _) (by decide) c hmem hc).elim

theorem lexical_of_punctuation {c : Char} {k : TokenKind} (h : punctuation c = some k) :
    Lexical k [c] :=
  (lexical_punctuation h).2 ⟨c, rfl, h⟩

/-- A line end or a punctuation token is written starting with a delimiter. -/
theorem delimiter_head {x : Lexeme} (hx : Lexical x.1 x.2.toList)
    (hk : x.1 = .newline ∨ ∃ c, punctuation c = some x.1) : ∀ h ∈ x.chars.head?, h ∈ delimiters := by
  obtain ⟨k, t⟩ := x
  intro h hh
  rcases hk with hn | ⟨c, hc⟩
  · simp only at hn
    subst hn
    simp only [Lexeme.chars, if_true, List.head?_cons, Option.mem_def,
      Option.some.injEq] at hh
    subst hh
    decide
  · have hn : k ≠ .newline := by
      rintro rfl
      have hall : ∀ c ∈ delimiters, punctuation c ≠ some .newline := forall_delimiters _ (by decide)
      exact hall c (punctuation_delimiter hc) hc
    simp only [Lexeme.chars, hn, if_false] at hh
    obtain ⟨c', ht, hp⟩ := (lexical_punctuation hc).1 hx
    simp only [ht, List.head?_cons, Option.mem_def, Option.some.injEq] at hh
    subst hh
    exact punctuation_delimiter hp

/-- After a word or a number comes a blank or a delimiter, so the scanner stops
there. -/
theorem wordEnd_of_spell {x : Lexeme} {rest : List Lexeme}
    (hrest : ∀ y ∈ rest, Lexical y.1 y.2.toList ∧ y.1 ≠ .eof)
    (hx : wordKind x.1 = true ∨ x.1 = .number) :
    ∀ h ∈ (gapBefore x.1 rest ++ spell rest).head?, isWordChar h = false := by
  intro h hh
  cases rest with
  | nil => simp [gapBefore, spell] at hh
  | cons y more =>
    by_cases hsp : spaced x.1 y.1
    · simp only [gapBefore, hsp, if_true, List.singleton_append, List.head?_cons,
        Option.mem_def, Option.some.injEq] at hh
      subst hh
      decide
    -- no blank: a word or a number opens nothing, so the next lexeme closes
    have hopen : opens x.1 = false := by
      rcases hx with hx | hx
      · cases hk : x.1 <;> simp_all [wordKind, opens]
      · simp [hx, opens]
    have hcl : closes y.1 = true := by
      simpa [spaced, hopen] using hsp
    have hclose : y.1 = .newline ∨ ∃ c, punctuation c = some y.1 := by
      cases hk : y.1 <;> simp only [hk, closes, Bool.false_eq_true] at hcl
      case newline => exact Or.inl rfl
      case rparen => exact Or.inr ⟨')', rfl⟩
      case rbracket => exact Or.inr ⟨']', rfl⟩
      case comma => exact Or.inr ⟨',', rfl⟩
      case dot => exact Or.inr ⟨'.', rfl⟩
      case colon => exact Or.inr ⟨':', rfl⟩
      case lparen => exact Or.inr ⟨'(', rfl⟩
    have hsp' : spaced x.1 y.1 = false := by simpa using hsp
    obtain ⟨hy, hye⟩ := hrest y (by simp)
    obtain ⟨c, cs, hcs⟩ := chars_eq_cons hy hye
    have hd := delimiter_head hy hclose c (by simp [hcs])
    simp only [gapBefore, hsp', spell, hcs, Bool.false_eq_true, if_false, List.nil_append,
      List.cons_append, List.head?_cons, Option.mem_def, Option.some.injEq] at hh
    subst hh
    exact not_wordChar_of_delimiter _ hd

/-- The blank after a lexeme is read as one blank piece and dropped. -/
theorem scanFrom_gap {d line col pend : Nat} {x : TokenKind} {rest : List Lexeme}
    (hrest : ∀ y ∈ rest, Lexical y.1 y.2.toList ∧ y.1 ≠ .eof) :
    ∃ col' pend', scanFrom d line col pend (gapBefore x rest ++ spell rest) =
      scanFrom d line col' pend' (spell rest) := by
  cases rest with
  | nil => exact ⟨col, pend, by simp [gapBefore]⟩
  | cons y more =>
    by_cases hsp : spaced x y.1
    · refine ⟨col + 1, 1, ?_⟩
      obtain ⟨hy, hye⟩ := hrest y (by simp)
      obtain ⟨c, cs, hcs⟩ := chars_eq_cons hy hye
      -- the next lexeme starts with no blank, so the blank piece is the one blank
      have hstop : ∀ h ∈ (spell (y :: more)).head?, isBlank h = false := by
        intro h hh
        simp only [spell, hcs, List.cons_append, List.head?_cons, Option.mem_def] at hh
        exact not_blank_head hy h (by simp [hcs, hh])
      have hnext : Piece.next ' ' (spell (y :: more)) = .ok (.blank [' '], spell (y :: more)) := by
        simp [Piece.next, isBlank, takeWhile_of_head hstop, dropWhile_of_head hstop]
      simp only [gapBefore, hsp, if_true, List.singleton_append]
      exact scanFrom_blank hnext
    · exact ⟨col, pend, by simp [gapBefore, hsp]⟩

/-- Lexemes that `spell` writes so that scanning reads them back: each has the
text of its kind, and none is the end of input. -/
def Spellable (ls : List Lexeme) : Prop := ∀ x ∈ ls, Lexical x.1 x.2.toList ∧ x.1 ≠ .eof

@[simp] theorem lexical_newline : Lexical .newline [] := rfl

@[simp] theorem spellable_nil : Spellable [] := List.forall_mem_nil _

@[simp] theorem spellable_cons {x : Lexeme} {ls : List Lexeme} :
    Spellable (x :: ls) ↔ (Lexical x.1 x.2.toList ∧ x.1 ≠ .eof) ∧ Spellable ls :=
  List.forall_mem_cons

@[simp] theorem spellable_append {a b : List Lexeme} :
    Spellable (a ++ b) ↔ Spellable a ∧ Spellable b :=
  List.forall_mem_append

@[simp] theorem spellable_flatMap {α : Type} {f : α → List Lexeme} {xs : List α} :
    Spellable (xs.flatMap f) ↔ ∀ x ∈ xs, Spellable (f x) :=
  List.forall_mem_flatMap

/-- A property that holds of a separator and of every part holds of every
element of the parts joined by the separator. -/
theorem forall_mem_intercalate {α : Type} {p : α → Prop} {sep : List α}
    (hsep : ∀ x ∈ sep, p x) :
    ∀ {xss : List (List α)}, (∀ l ∈ xss, ∀ x ∈ l, p x) → ∀ x ∈ sep.intercalate xss, p x
  | [], _ => by simp
  | [l], h => by
    rw [List.intercalate_singleton]
    exact h l (List.mem_singleton_self l)
  | l :: l' :: ls, h => by
    rw [List.intercalate_cons_cons]
    intro x hx
    rcases List.mem_append.1 hx with hx | hx
    · rcases List.mem_append.1 hx with hx | hx
      · exact h l (by simp) x hx
      · exact hsep x hx
    · exact forall_mem_intercalate hsep (fun l hl => h l (by simp [hl])) x hx

theorem Spellable.intercalate {sep : List Lexeme} {xss : List (List Lexeme)}
    (hsep : Spellable sep) (h : ∀ l ∈ xss, Spellable l) : Spellable (sep.intercalate xss) :=
  forall_mem_intercalate hsep h

/-- **Scanning a written text.** Lexemes with the texts of their kinds, none of
them the end of input, with line ends outside brackets, scan from their written
text into tokens of exactly these kinds and texts, then the end of input. -/
theorem scanFrom_spell : ∀ (ls : List Lexeme) (d line col pend : Nat), Spellable ls → Flat d ls →
    ∃ ts, scanFrom d line col pend (spell ls) = .ok ts ∧ ts.map lex = ls ++ [(.eof, "")]
  | [], d, line, col, pend, _, _ =>
    ⟨[endToken line col pend], by simp [spell, scanFrom], by simp [lex, endToken]⟩
  | x :: rest, d, line, col, pend, hl, hf => by
    obtain ⟨hx, hxe⟩ := hl x (by simp)
    have hrest : ∀ y ∈ rest, Lexical y.1 y.2.toList ∧ y.1 ≠ .eof :=
      fun y hy => hl y (List.mem_cons_of_mem x hy)
    obtain ⟨hd0, hflat⟩ := hf
    obtain ⟨k, t⟩ := x
    by_cases hn : k = .newline
    · -- a line end, outside brackets, becomes a `newline` token
      subst hn
      have ht : t = "" := by
        simpa [Lexical] using hx
      subst ht
      have hd : d = 0 := hd0 rfl
      subst hd
      obtain ⟨ts, hts, hmap⟩ := scanFrom_spell rest 0 (line + 1) 1 0 hrest hflat
      have hgap : gapBefore .newline rest = [] := by
        cases rest <;> simp [gapBefore, spaced, opens]
      have hnext : Piece.next '\n' (spell rest) = .ok (.lineEnd ['\n'], spell rest) := by
        simp [Piece.next]
      refine ⟨⟨.newline, "", line, col⟩ :: ts, ?_, ?_⟩
      · simp only [spell, Lexeme.chars, if_true, hgap, List.append_nil, List.singleton_append]
        rw [scanFrom_lineEnd hnext, hts]
        rfl
      · simp [lex, hmap]
    · -- a token is read whole, then the blank after it is dropped
      obtain ⟨c, cs, hcs⟩ := chars_eq_cons hx hxe
      have htext : t.toList = c :: cs := by simpa [Lexeme.chars, hn] using hcs
      have hlex : Lexical k (c :: cs) := by simpa [htext] using hx
      have hnext := next_of_lexical hlex (r := gapBefore k rest ++ spell rest)
        (fun hw => wordEnd_of_spell (x := (k, t)) hrest hw)
      obtain ⟨col', pend', hgap⟩ :=
        @scanFrom_gap (nextDepth d k) line (col + (c :: cs).length) 0 k rest hrest
      obtain ⟨ts, hts, hmap⟩ := scanFrom_spell rest (nextDepth d k) line col' pend' hrest hflat
      refine ⟨⟨k, String.ofList (c :: cs), line, col⟩ :: ts, ?_, ?_⟩
      · simp only [spell, hcs, List.cons_append, List.append_assoc]
        rw [scanFrom_token hnext, hgap, hts]
        rfl
      · simp [lex, hmap, ← htext]

/-! ## Brackets and lines -/

/-- The bracket depth after a list of lexemes. -/
def depthAfter (d : Nat) (ls : List Lexeme) : Nat := ls.foldl (fun d x => nextDepth d x.1) d

theorem flat_append {d : Nat} {a b : List Lexeme} :
    Flat d (a ++ b) ↔ Flat d a ∧ Flat (depthAfter d a) b := by
  induction a generalizing d with
  | nil => simp [Flat, depthAfter]
  | cons x a ih => simp [Flat, depthAfter, ih, and_assoc]

theorem depthAfter_append (d : Nat) (a b : List Lexeme) :
    depthAfter d (a ++ b) = depthAfter (depthAfter d a) b := by
  simp [depthAfter]

/-- Lexemes with no line end and no bracket. -/
def Inline (ls : List Lexeme) : Prop :=
  ∀ x ∈ ls, x.1 ≠ .newline ∧ x.1 ≠ .lbracket ∧ x.1 ≠ .rbracket

theorem Inline.intercalate {sep : List Lexeme} {xss : List (List Lexeme)}
    (hsep : Inline sep) (h : ∀ l ∈ xss, Inline l) : Inline (sep.intercalate xss) :=
  forall_mem_intercalate hsep h

/-- Lexemes whose brackets close, with no line end inside them: from any depth
they are flat and come back to it. -/
def Balanced (ls : List Lexeme) : Prop := ∀ d, Flat d ls ∧ depthAfter d ls = d

theorem Inline.balanced {ls : List Lexeme} (h : Inline ls) : Balanced ls := by
  induction ls with
  | nil => intro d; simp [Flat, depthAfter]
  | cons x ls ih =>
    obtain ⟨⟨hn, hl, hr⟩, hls⟩ := List.forall_mem_cons.1 h
    have hd : ∀ d, nextDepth d x.1 = d := fun d => by simp [nextDepth, hl, hr]
    intro d
    refine ⟨⟨fun h => absurd h hn, ?_⟩, ?_⟩
    · rw [hd]
      exact (ih hls d).1
    · simp only [depthAfter, List.foldl_cons, hd]
      exact (ih hls d).2

theorem Balanced.append {a b : List Lexeme} (ha : Balanced a) (hb : Balanced b) :
    Balanced (a ++ b) := by
  intro d
  rw [flat_append, depthAfter_append, (ha d).2]
  exact ⟨⟨(ha d).1, (hb d).1⟩, (hb d).2⟩

/-- A bracketed list of lexemes with no line end and no bracket inside. -/
theorem balanced_nil : Balanced [] := fun _ => ⟨trivial, rfl⟩

theorem Balanced.cons {x : Lexeme} {ls : List Lexeme} (hx : Inline [x]) (h : Balanced ls) :
    Balanced (x :: ls) :=
  hx.balanced.append h

theorem balanced_intercalate {sep : List Lexeme} (hsep : Balanced sep) :
    ∀ {xss : List (List Lexeme)}, (∀ l ∈ xss, Balanced l) → Balanced (sep.intercalate xss)
  | [], _ => fun _ => ⟨trivial, rfl⟩
  | [l], h => by
    rw [List.intercalate_singleton]
    exact h l (List.mem_singleton_self l)
  | l :: l' :: ls, h => by
    rw [List.intercalate_cons_cons]
    exact ((h l (by simp)).append hsep).append
      (balanced_intercalate hsep fun l hl => h l (by simp [hl]))

theorem Balanced.bracketed {ls : List Lexeme} (h : Balanced ls) :
    Balanced ((.lbracket, "[") :: ls ++ [(.rbracket, "]")]) := by
  intro d
  -- inside the brackets the lexemes stay one level deeper
  obtain ⟨hflat, hdepth⟩ := h (d + 1)
  refine ⟨⟨(fun h => nomatch h), ?_⟩, ?_⟩
  · show Flat (d + 1) (ls ++ [(.rbracket, "]")])
    rw [flat_append, hdepth]
    exact ⟨hflat, (fun h => nomatch h), trivial⟩
  · show depthAfter (d + 1) (ls ++ [(.rbracket, "]")]) = d
    rw [depthAfter_append, hdepth]
    simp [depthAfter, nextDepth]

/-- Lexemes read at depth `0` that come back to it: whole lines. -/
def Lines (ls : List Lexeme) : Prop := Flat 0 ls ∧ depthAfter 0 ls = 0

theorem Lines.append {a b : List Lexeme} (ha : Lines a) (hb : Lines b) : Lines (a ++ b) := by
  refine ⟨flat_append.2 ⟨ha.1, ?_⟩, ?_⟩
  · rw [ha.2]
    exact hb.1
  · rw [depthAfter_append, ha.2, hb.2]

theorem Balanced.line {ls : List Lexeme} (h : Balanced ls) : Lines (ls ++ [(.newline, "")]) := by
  refine ⟨flat_append.2 ⟨(h 0).1, ?_⟩, ?_⟩
  · rw [(h 0).2]
    exact ⟨fun _ => rfl, trivial⟩
  · rw [depthAfter_append, (h 0).2]
    rfl

theorem lines_flatMap {α : Type} {f : α → List Lexeme} :
    ∀ {xs : List α}, (∀ x ∈ xs, Lines (f x)) → Lines (xs.flatMap f)
  | [], _ => ⟨trivial, rfl⟩
  | x :: xs, h => by
    rw [List.flatMap_cons]
    exact Lines.append (h x (by simp)) (lines_flatMap fun y hy => h y (by simp [hy]))

/-- **Scanning whole lines.** Lexemes with the texts of their kinds that make
whole lines scan from their written text into exactly these lexemes, then the
end of input. -/
theorem scan_spell {ls : List Lexeme} (hs : Spellable ls) (hl : Lines ls) :
    ∃ ts, scan (String.ofList (spell ls)) = .ok ts ∧ ts.map lex = ls ++ [(.eof, "")] := by
  unfold scan
  rw [String.toList_ofList]
  exact scanFrom_spell ls 0 1 1 0 hs hl.1

/-! ## Every scanned token has the text of its kind -/

theorem ofWord_wordKind (w : String) : wordKind (TokenKind.ofWord w) = true := by
  unfold TokenKind.ofWord
  split <;> rfl

/-- A word piece is a word. -/
theorem isWord_of_next {c : Char} {rest : List Char} (hc : Text.isLetter c = true ∨ c = '_') :
    IsWord (c :: rest.takeWhile isWordChar) := by
  refine ⟨by simpa [isWordStart] using hc, fun x hx => ?_⟩
  exact List.mem_takeWhile_imp hx

/-- A word has the text of the kind `ofWord` gives it. -/
theorem lexical_ofWord {w : List Char} (hw : IsWord w) :
    Lexical (TokenKind.ofWord (String.ofList w)) w := by
  have hk := ofWord_wordKind (String.ofList w)
  cases hk' : TokenKind.ofWord (String.ofList w)
  case boolean | identifier | baseComponent | withKw | asKw => exact ⟨hw, hk'⟩
  -- `ofWord` gives no other kind
  all_goals simp [hk', wordKind] at hk

/-- Every token piece has the text of its kind. -/
theorem lexical_of_next {c : Char} {rest r : List Char} {k : TokenKind} {t : List Char}
    (h : Piece.next c rest = .ok (.token k t, r)) : Lexical k t := by
  unfold Piece.next at h
  split at h
  · cases h
  split at h
  · split at h <;> cases h
  split at h
  · cases h
  split at h
  · cases h
  split at h
  · -- punctuation
    rename_i k' hp
    simp only [Except.ok.injEq, Prod.mk.injEq, Piece.token.injEq] at h
    obtain ⟨⟨rfl, rfl⟩, -⟩ := h
    exact (lexical_punctuation hp).2 ⟨c, rfl, hp⟩
  split at h
  · -- a string
    rename_i hq
    split at h
    · rename_i q r' hdrop
      split at h
      · rename_i hqc
        simp only [Except.ok.injEq, Prod.mk.injEq, Piece.token.injEq] at h
        obtain ⟨⟨rfl, rfl⟩, -⟩ := h
        exact ⟨c, rest.takeWhile (inString c), hq, fun x hx => List.mem_takeWhile_imp hx, rfl⟩
      · cases h
    · cases h
  split at h
  · -- a number
    rename_i hd
    simp only [Except.ok.injEq, Prod.mk.injEq, Piece.token.injEq] at h
    obtain ⟨⟨rfl, rfl⟩, -⟩ := h
    refine ⟨by simp, fun x hx => ?_⟩
    rcases List.mem_cons.1 hx with rfl | hx
    · exact hd
    · exact List.mem_takeWhile_imp hx
  split at h
  · -- a word
    rename_i hw
    simp only [Except.ok.injEq, Prod.mk.injEq, Piece.token.injEq] at h
    obtain ⟨⟨rfl, rfl⟩, -⟩ := h
    exact lexical_ofWord (isWord_of_next hw)
  · cases h

/-- **Scanned tokens are lexical.** Every token scanning makes, the `newline`
and end-of-input tokens included, has the text of its kind. -/
theorem scanFrom_lexical {d line col pend : Nat} {cs : List Char} {ts : List Token}
    (h : scanFrom d line col pend cs = .ok ts) : ∀ t ∈ ts, Lexical t.kind t.text.toList := by
  fun_induction scanFrom d line col pend cs generalizing ts with
  | case1 d line col pend =>
    simp only [Except.ok.injEq] at h
    subst h
    simp [endToken, Lexical]
  | case2 => cases h
  | case3 => cases h
  | case4 d line col pend c rest k text r hn d' =>
    rename_i ih
    obtain ⟨ts', h', rfl⟩ := map_cons_eq_ok h
    intro t ht
    rcases List.mem_cons.1 ht with rfl | ht
    · simpa [String.toList_ofList] using lexical_of_next hn
    · exact ih h' t ht
  | case5 line col pend c rest text r hn ih =>
    obtain ⟨ts', h', rfl⟩ := map_cons_eq_ok h
    intro t ht
    rcases List.mem_cons.1 ht with rfl | ht
    · simp [Lexical]
    · exact ih h' t ht
  | case6 d line col pend c rest text r hn hd ih => exact ih h
  | case7 d line col pend c rest text r hn ih => exact ih h
  | case8 d line col pend c rest text r hn ih => exact ih h

/-- Every token of a scanned text has the text of its kind. -/
theorem scan_lexical {s : String} {ts : List Token} (h : scan s = .ok ts) :
    ∀ t ∈ ts, Lexical t.kind t.text.toList :=
  scanFrom_lexical h

end UiLang.Token
