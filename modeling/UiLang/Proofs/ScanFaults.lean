import UiLang.Proofs.Segmentation

/-!
# Scanning fails exactly at the first fault

Reading source text one character at a time, a reader is outside strings and
comments, inside a comment, or inside a string opened by a quote at some
position (`Region`). Outside strings and comments a `#` opens a comment and a
quote opens a string; any other character must be a blank, punctuation, an
ASCII digit, a letter or `_` (`plain`). A comment runs to a line end, and a
string to its own quote. The first fault of a text (`firstFault`) is the first
character outside strings and comments that is none of these, reported at its
own position, or a string whose quote does not come back before a line end or
the end of the text, reported at its opening quote.

Scanning fails exactly with the first fault (`scan_eq_error_iff`), although it
reads whole pieces at a time: a word, a number or a run of blanks is made of
plain characters, a string is walked inside its region, and a comment ends
where a line end follows it (`firstFault_next`); where reading a piece fails,
the walk meets its fault at the piece's position (`firstFault_next_error`).
`scanFrom_eq_error_iff` is the run lemma over `scanFrom`.
-/

namespace UiLang.Token

/-- Where a reader of source text stands: outside strings and comments, inside
a comment, or inside a string opened by `quote` at `line`, `column`. -/
inductive Region
  | code
  | comment
  | string (quote : Char) (line column : Nat)
  deriving DecidableEq, Repr

/-- The characters that may stand outside strings and comments, besides line
ends, `#` and quotes: blanks, punctuation, ASCII digits, letters and `_`. -/
def plain (c : Char) : Bool :=
  isBlank c || (punctuation c).isSome || c.isDigit || Text.isLetter c || c == '_'

/-- The first fault of a text read from `region` at line `l`, column `c`, one
character at a time; `none` when it has none. A line end is `\n`, `\r\n` or a
lone `\r`, and moves to column `1` of the next line. -/
def firstFault : Region → Nat → Nat → List Char → Option LexError
  | .string _ l₀ c₀, _, _, [] => some (.unterminated l₀ c₀)
  | .string q l₀ c₀, l, c, x :: r =>
    if x = q then firstFault .code l (c + 1) r
    else if isLineEnd x then some (.unterminated l₀ c₀)
    else firstFault (.string q l₀ c₀) l (c + 1) r
  | .code, _, _, [] => none
  | .comment, _, _, [] => none
  | _, l, _, '\r' :: '\n' :: r => firstFault .code (l + 1) 1 r
  | _, l, _, '\r' :: r => firstFault .code (l + 1) 1 r
  | _, l, _, '\n' :: r => firstFault .code (l + 1) 1 r
  | .comment, l, c, _ :: r => firstFault .comment l (c + 1) r
  | .code, l, c, x :: r =>
    if x = '#' then firstFault .comment l (c + 1) r
    else if x = '"' ∨ x = '\'' then firstFault (.string x l c) l (c + 1) r
    else if plain x then firstFault .code l (c + 1) r
    else some (.unexpected l c x)

example : firstFault .code 1 1 "B:\n\ttext = 'x\n".toList = some (.unterminated 2 9) := by decide

example : firstFault .code 1 1 "# it's\r\nw = 1 ~".toList = some (.unexpected 2 7 '~') := by decide

/-! ## Walking characters -/

theorem plain_ne {x : Char} (h : plain x = true) :
    x ≠ '\n' ∧ x ≠ '\r' ∧ x ≠ '#' ∧ x ≠ '"' ∧ x ≠ '\'' := by
  refine ⟨?_, ?_, ?_, ?_, ?_⟩ <;> (rintro rfl; exact absurd h (by decide))

theorem firstFault_plain {x : Char} (h : plain x = true) (l c : Nat) (r : List Char) :
    firstFault .code l c (x :: r) = firstFault .code l (c + 1) r := by
  obtain ⟨hn, hr, hh, hq, ha⟩ := plain_ne h
  rw [firstFault.eq_9 _ _ _ _ (fun _ h _ => hr h) hr hn]
  simp [hh, hq, ha, h]

/-- A run of characters that a region walks past one column each is walked
past as a whole. -/
theorem firstFault_run {region : Region} {w : List Char}
    (hstep : ∀ x ∈ w, ∀ l c r, firstFault region l c (x :: r) = firstFault region l (c + 1) r)
    (l c : Nat) (r : List Char) :
    firstFault region l c (w ++ r) = firstFault region l (c + w.length) r := by
  induction w generalizing c with
  | nil => rfl
  | cons x w ih =>
    rw [List.cons_append, hstep x (List.mem_cons_self ..),
      ih (fun y hy => hstep y (List.mem_cons_of_mem x hy))]
    simp only [List.length_cons]
    congr 1
    omega

/-- Plain characters are walked past one column each. -/
theorem firstFault_plains {w : List Char} (hw : ∀ x ∈ w, plain x = true) (l c : Nat) (r : List Char) :
    firstFault .code l c (w ++ r) = firstFault .code l (c + w.length) r :=
  firstFault_run (fun x hx => firstFault_plain (hw x hx)) l c r

/-- Outside strings a line end moves to the start of the next line, and ends a
comment. -/
theorem firstFault_lineEnd {e r : List Char} (he : IsLineEnd e r) {region : Region}
    (hreg : region = .code ∨ region = .comment) (l c : Nat) :
    firstFault region l c (e ++ r) = firstFault .code (l + 1) 1 r := by
  have hns : ∀ q l₀ c₀, region = .string q l₀ c₀ → False := by
    rintro q l₀ c₀ rfl
    simp at hreg
  rcases he with rfl | rfl | ⟨rfl, hx⟩
  · exact firstFault.eq_7 _ _ _ _ hns
  · exact firstFault.eq_5 _ _ _ _ hns
  · exact firstFault.eq_6 region l c r (fun r' h => hx (by simp [h])) hns

/-- A comment is walked past up to a line end. -/
theorem firstFault_comment {body : List Char} (hb : NoLineEnd body) (l c : Nat) (r : List Char) :
    firstFault .comment l c (body ++ r) = firstFault .comment l (c + body.length) r :=
  firstFault_run (fun x hx _ _ _ => firstFault.eq_8 _ _ _ _ (fun _ h _ => (hb x hx).2 h) (hb x hx).2 (hb x hx).1)
    l c r

/-- A line end character and what follows it start with a line end. -/
theorem exists_lineEnd {x : Char} (hx : x = '\n' ∨ x = '\r') (r' : List Char) :
    ∃ e r, x :: r' = e ++ r ∧ IsLineEnd e r := by
  rcases hx with rfl | rfl
  · exact ⟨['\n'], r', rfl, .inl rfl⟩
  · cases r' with
    | nil => exact ⟨['\r'], [], rfl, .inr (.inr ⟨rfl, by simp⟩)⟩
    | cons y r =>
      by_cases hy : y = '\n'
      · subst hy
        exact ⟨['\r', '\n'], r, rfl, .inr (.inl rfl)⟩
      · exact ⟨['\r'], y :: r, rfl, .inr (.inr ⟨rfl, by simp [hy]⟩)⟩

/-- Where the text ends or a line end follows, a comment is over. -/
theorem firstFault_comment_end {r : List Char} (hr : ∀ x ∈ r.head?, x = '\n' ∨ x = '\r') (l c : Nat) :
    firstFault .comment l c r = firstFault .code l c r := by
  match r, hr with
  | [], _ => rfl
  | x :: r', hr =>
    -- both regions read the line end the same way
    obtain ⟨e, r, hsplit, he⟩ := exists_lineEnd (hr x rfl) r'
    rw [hsplit, firstFault_lineEnd he (.inr rfl), firstFault_lineEnd he (.inl rfl)]

/-- Inside a string, a character that may stand there is walked past. -/
theorem firstFault_inString {q x : Char} (hx : inString q x = true) (l₀ c₀ l c : Nat) (r : List Char) :
    firstFault (.string q l₀ c₀) l c (x :: r) = firstFault (.string q l₀ c₀) l (c + 1) r := by
  simp only [inString, Bool.and_eq_true, bne_iff_ne, ne_eq, Bool.not_eq_true'] at hx
  rw [firstFault, if_neg hx.1, if_neg (by simp [hx.2])]

/-- A string is walked past up to its own quote or a line end. -/
theorem firstFault_string {q : Char} {body : List Char} (hb : ∀ x ∈ body, inString q x = true)
    (l₀ c₀ l c : Nat) (r : List Char) :
    firstFault (.string q l₀ c₀) l c (body ++ r) = firstFault (.string q l₀ c₀) l (c + body.length) r :=
  firstFault_run (fun x hx => firstFault_inString (hb x hx) l₀ c₀) l c r

/-! ## Walking a piece -/

theorem plain_of_isBlank {x : Char} (h : isBlank x = true) : plain x = true := by
  simp [plain, h]

theorem plain_of_isDigit {x : Char} (h : x.isDigit = true) : plain x = true := by
  simp [plain, h]

theorem plain_of_isWordChar {x : Char} (h : isWordChar x = true) : plain x = true := by
  simp only [isWordChar, Bool.or_eq_true, decide_eq_true_eq] at h
  rcases h with (h | h) | h <;> simp [plain, h]

/-- A token is a run of plain characters, or a string: a quote, characters
that may stand inside it, and the same quote. -/
theorem next_token {c : Char} {rest r t : List Char} {k : TokenKind}
    (h : Piece.next c rest = .ok (.token k t, r)) :
    (∀ x ∈ t, plain x = true) ∨
      (c = '"' ∨ c = '\'') ∧ ∃ body, t = c :: body ++ [c] ∧ ∀ x ∈ body, inString c x = true := by
  unfold Piece.next at h
  -- line ends, blanks and comments are no tokens
  split at h
  · cases h
  split at h
  · split at h <;> cases h
  split at h
  · cases h
  split at h
  · cases h
  split at h
  · rename_i k' hk
    cases h
    exact .inl (by simp [plain, hk])
  split at h
  · -- a string that closes
    rename_i hq
    split at h
    · split at h
      · cases h
        exact .inr ⟨hq, _, rfl, fun x hx => List.mem_takeWhile_imp hx⟩
      · cases h
    · cases h
  split at h
  · rename_i hd
    cases h
    refine .inl fun x hx => ?_
    rcases List.mem_cons.1 hx with rfl | hx
    · exact plain_of_isDigit hd
    · exact plain_of_isDigit (List.mem_takeWhile_imp hx)
  split at h
  · rename_i hw
    cases h
    have hwc : isWordChar c = true := by
      rcases hw with h | h <;> simp [isWordChar, h]
    refine .inl fun x hx => ?_
    rcases List.mem_cons.1 hx with rfl | hx
    · exact plain_of_isWordChar hwc
    · exact plain_of_isWordChar (List.mem_takeWhile_imp hx)
  · cases h

/-- Reading fails at a quote whose string does not close, and at a character
that starts no piece. -/
theorem next_error {c : Char} {rest : List Char} {f : Fault} (h : Piece.next c rest = .error f) :
    c ≠ '\n' ∧ c ≠ '\r' ∧ c ≠ '#' ∧
      ((f = .unterminated ∧ (c = '"' ∨ c = '\'') ∧ ∀ x ∈ (rest.dropWhile (inString c)).head?, x ≠ c) ∨
        (f = .unexpected c ∧ ¬(c = '"' ∨ c = '\'') ∧ plain c = false)) := by
  unfold Piece.next at h
  -- line ends, blanks and comments are always read
  split at h
  · cases h
  rename_i hn
  split at h
  · split at h <;> cases h
  rename_i hr
  split at h
  · cases h
  rename_i hb
  split at h
  · cases h
  rename_i hh
  refine ⟨hn, hr, hh, ?_⟩
  split at h
  · cases h
  rename_i hp
  split at h
  · rename_i hq
    split at h
    · rename_i x r hdrop
      split at h
      · cases h
      · rename_i hxc
        cases h
        exact .inl ⟨rfl, hq, by simp [hdrop, hxc]⟩
    · rename_i hdrop
      cases h
      exact .inl ⟨rfl, hq, by simp [hdrop]⟩
  rename_i hq
  split at h
  · cases h
  rename_i hd
  split at h
  · cases h
  · rename_i hw
    cases h
    refine .inr ⟨rfl, hq, ?_⟩
    simp only [plain, Bool.or_eq_false_iff, beq_eq_false_iff_ne]
    simp_all

/-- Where reading goes on after a piece read at line `l`, column `col`: at the
start of the next line after a line end, and further along the line after
anything else. -/
def Piece.endPos (p : Piece) (l col : Nat) : Nat × Nat :=
  match p with
  | .lineEnd _ => (l + 1, 1)
  | _ => (l, col + p.text.length)

/-- The scanning error of a piece that fails at line `l`, column `col`. -/
def Fault.at (f : Fault) (l col : Nat) : LexError :=
  match f with
  | .unterminated => .unterminated l col
  | .unexpected x => .unexpected l col x

/-- **Walking a piece.** Walking the text from a character that starts a piece
goes on where reading goes on after the piece. -/
theorem firstFault_next {c : Char} {rest r : List Char} {p : Piece}
    (h : Piece.next c rest = .ok (p, r)) (l col : Nat) :
    firstFault .code l col (c :: rest) = firstFault .code (p.endPos l col).1 (p.endPos l col).2 r := by
  obtain ⟨hsplit, hvalid⟩ := Piece.next_spec h
  rw [hsplit]
  cases p with
  | lineEnd t => exact firstFault_lineEnd hvalid (.inl rfl) l col
  | blank t => exact firstFault_plains (fun x hx => plain_of_isBlank (by
      rcases hvalid.2 x hx with rfl | rfl <;> rfl)) l col r
  | comment t =>
    -- a comment runs to the line end that follows it
    obtain ⟨⟨body, rfl, hbody⟩, hend⟩ := hvalid
    simp only [Piece.text, Piece.endPos, List.cons_append, List.length_cons]
    rw [firstFault.eq_9 _ _ _ _ (fun _ h _ => absurd h (by decide)) (by decide) (by decide), if_pos rfl,
      firstFault_comment hbody, firstFault_comment_end hend]
    congr 1
    omega
  | token k t =>
    rcases next_token h with hplain | ⟨hq, body, rfl, hbody⟩
    · exact firstFault_plains hplain l col r
    · -- a string is walked inside its region, up to its closing quote
      obtain ⟨hh, hr, hn⟩ : c ≠ '#' ∧ c ≠ '\r' ∧ c ≠ '\n' := by rcases hq with rfl | rfl <;> decide
      simp only [Piece.text, Piece.endPos, List.cons_append, List.append_assoc, List.length_cons,
        List.length_append, List.length_nil]
      rw [firstFault.eq_9 _ _ _ _ (fun _ h _ => hr h) hr hn, if_neg hh, if_pos hq,
        firstFault_string hbody, firstFault.eq_2, if_pos rfl]
      congr 1
      omega

/-- **Failing on a piece.** Where reading a piece fails, the walk meets its
fault at the piece's position. -/
theorem firstFault_next_error {c : Char} {rest : List Char} {f : Fault}
    (h : Piece.next c rest = .error f) (l col : Nat) :
    firstFault .code l col (c :: rest) = some (f.at l col) := by
  obtain ⟨hn, hr, hh, ⟨rfl, hq, hstop⟩ | ⟨rfl, hq, hplain⟩⟩ := next_error h
  · rw [firstFault.eq_9 _ _ _ _ (fun _ h _ => hr h) hr hn, if_neg hh, if_pos hq,
      ← List.takeWhile_append_dropWhile (p := inString c) (l := rest),
      firstFault_string (fun x hx => List.mem_takeWhile_imp hx)]
    -- the string stops at the end of the text or at a line end, not at its quote
    have hstop' := List.head?_dropWhile_not (inString c) rest
    cases hdrop : rest.dropWhile (inString c) with
    | nil => rfl
    | cons x r =>
      rw [hdrop] at hstop hstop'
      have hxc : x ≠ c := hstop x rfl
      have hle : isLineEnd x = true := by simpa [inString, hxc] using hstop'
      rw [firstFault.eq_2, if_neg hxc, if_pos hle]
      rfl
  · rw [firstFault.eq_9 _ _ _ _ (fun _ h _ => hr h) hr hn, if_neg hh, if_neg hq, hplain]
    rfl

/-! ## Scanning -/

theorem map_eq_error_iff {ε α β : Type} (f : α → β) (x : Except ε α) (e : ε) :
    x.map f = .error e ↔ x = .error e := by
  cases x <;> simp [Except.map]

/-- Scanning from any position, depth and pending piece fails exactly with the
first fault of the text from that position. -/
theorem scanFrom_eq_error_iff (d line col pending : Nat) (cs : List Char) (e : LexError) :
    scanFrom d line col pending cs = .error e ↔ firstFault .code line col cs = some e := by
  fun_induction scanFrom d line col pending cs with
  | case1 => simp [firstFault]
  | case2 d line col pending c rest hn =>
    simp [firstFault_next_error hn, Fault.at]
  | case3 d line col pending c rest x hn =>
    simp [firstFault_next_error hn, Fault.at]
  -- a piece read: the token it gives, if any, is no error, and the rest is scanned on
  | case4 d line col pending c rest k text r hn d' ih | case5 line col pending c rest text r hn ih =>
    rw [map_eq_error_iff, ih, firstFault_next hn]
    rfl
  | case6 d line col pending c rest text r hn hd ih | case7 d line col pending c rest text r hn ih
  | case8 d line col pending c rest text r hn ih =>
    rw [ih, firstFault_next hn]
    rfl

/-- **Scanning fails exactly at the first fault.** Source text fails to scan
exactly when, read from its start, it meets outside strings and comments a
character that starts no piece, or a quote whose string does not close before a
line end or the end of the text; the error is the first such fault, with the
character and its line and column in the first case, and the line and column of
the opening quote in the second. -/
theorem scan_eq_error_iff (s : String) (e : LexError) :
    scan s = .error e ↔ firstFault .code 1 1 s.toList = some e :=
  scanFrom_eq_error_iff 0 1 1 0 s.toList e

end UiLang.Token
