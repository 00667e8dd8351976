import UiLang.Token
import UiLang.Text.Letter

/-!
# Scanning source text into tokens

Scanning reads the source from the front, one piece at a time: a token, a line
end (`\n`, `\r\n` or a lone `\r`), a run of blanks (spaces and tabs), or a
comment (from `#` to the end of the line). Blanks and comments are dropped.
A line end becomes a `newline` token only outside brackets: `[` opens a
bracket, and `]` closes one when one is open, so lists may span lines.

Strings keep their quotes and end at the same quote character; a line end or the
end of input inside one is an error at the opening quote. Numbers are runs of
ASCII digits; words start with a letter or `_` and go on with letters, ASCII
digits and `_`.

The `eof` token closes every token list. Its column is the column reached,
less the length of the last piece when that piece was dropped: after trailing
blanks or a trailing comment it is the column where they start, and after a
line end inside brackets it is `1` less that line end's length.
-/

namespace UiLang

/-- What stops scanning, with the position where the offending piece starts. -/
inductive LexError
  | unexpected (line column : Nat) (c : Char)
  | unterminated (line column : Nat)
  deriving DecidableEq, Repr

/-- The text of a scanning error. -/
def LexError.message : LexError → String
  | .unexpected l c ch =>
    "lexer error at line " ++ toString l ++ ", column " ++ toString c ++
      ": unexpected character " ++ Text.quotedChar ch
  | .unterminated l c =>
    "lexer error at line " ++ toString l ++ ", column " ++ toString c ++ ": unterminated string"

namespace Token

/-- One piece of source text, as scanning takes it off the front. -/
inductive Piece
  | token (kind : TokenKind) (text : List Char)
  | lineEnd (text : List Char)
  | blank (text : List Char)
  | comment (text : List Char)
  deriving DecidableEq, Repr

/-- The source text of a piece. -/
def Piece.text : Piece → List Char
  | .token _ t | .lineEnd t | .blank t | .comment t => t

/-- Why a piece cannot be read. -/
inductive Fault
  | unexpected (c : Char)
  | unterminated
  deriving DecidableEq, Repr

/-- Spaces and tabs separate tokens on a line. -/
def isBlank (c : Char) : Bool := c = ' ' || c = '\t'

/-- A line ends at `\n` or `\r`. -/
def isLineEnd (c : Char) : Bool := c = '\n' || c = '\r'

/-- Characters that may follow the first character of a word. -/
def isWordChar (c : Char) : Bool := Text.isLetter c || c.isDigit || c = '_'

/-- Characters that may stand inside a string opened by `quote`. -/
def inString (quote c : Char) : Bool := c != quote && !isLineEnd c

/-- The tokens made of one character. -/
def punctuation : Char → Option TokenKind
  | ':' => some .colon
  | ',' => some .comma
  | '.' => some .dot
  | '=' => some .equals
  | '(' => some .lparen
  | ')' => some .rparen
  | '[' => some .lbracket
  | ']' => some .rbracket
  | '+' | '-' | '*' | '/' => some .arithOp
  | _ => none

/-- The piece that starts with `c`, followed by `rest`, and what follows it. -/
def Piece.next (c : Char) (rest : List Char) : Except Fault (Piece × List Char) :=
  if c = '\n' then .ok (.lineEnd ['\n'], rest)
  else if c = '\r' then
    match rest with
    | '\n' :: r => .ok (.lineEnd ['\r', '\n'], r)
    | _ => .ok (.lineEnd ['\r'], rest)
  else if isBlank c then .ok (.blank (c :: rest.takeWhile isBlank), rest.dropWhile isBlank)
  else if c = '#' then
    .ok (.comment (c :: rest.takeWhile (! isLineEnd ·)), rest.dropWhile (! isLineEnd ·))
  else match punctuation c with
  | some k => .ok (.token k [c], rest)
  | none =>
    if c = '"' ∨ c = '\'' then
      match rest.dropWhile (inString c) with
      | q :: r =>
        if q = c then .ok (.token .string (c :: rest.takeWhile (inString c) ++ [c]), r)
        else .error .unterminated
      | [] => .error .unterminated
    else if c.isDigit then
      .ok (.token .number (c :: rest.takeWhile Char.isDigit), rest.dropWhile Char.isDigit)
    else if Text.isLetter c ∨ c = '_' then
      let word := c :: rest.takeWhile isWordChar
      .ok (.token (TokenKind.ofWord (String.ofList word)) word, rest.dropWhile isWordChar)
    else .error (.unexpected c)

theorem length_dropWhile_le {α : Type} (p : α → Bool) (xs : List α) :
    (xs.dropWhile p).length ≤ xs.length := by
  induction xs with
  | nil => simp
  | cons x xs ih =>
    simp only [List.dropWhile]
    split
    · exact Nat.le_succ_of_le ih
    · exact Nat.le_refl _

theorem length_lt_of_dropWhile_eq {α : Type} {p : α → Bool} {xs r : List α} {q : α}
    (h : xs.dropWhile p = q :: r) : r.length < xs.length + 1 := by
  have := length_dropWhile_le p xs
  rw [h, List.length_cons] at this
  omega

/-- Every piece takes at least one character. -/
theorem Piece.next_length {c : Char} {rest r : List Char} {p : Piece}
    (h : Piece.next c rest = .ok (p, r)) : r.length < rest.length + 1 := by
  unfold Piece.next at h
  repeat' split at h
  all_goals first
    | (simp only [Except.ok.injEq, Prod.mk.injEq] at h
       obtain ⟨-, rfl⟩ := h
       first
       | exact Nat.lt_succ_of_le (length_dropWhile_le _ _)
       | exact length_lt_of_dropWhile_eq (by assumption)
       | omega
       | (simp only [List.length_cons]; omega))
    | simp at h

/-- The `eof` token at line `line`, column `column`, after a dropped last
piece of `pending` characters. -/
def endToken (line column pending : Nat) : Token :=
  ⟨.eof, "", line, (column : Int) - pending⟩

/-- Scans `cs` from line `line`, column `column`, inside `depth` brackets;
`pending` is the length of the last piece if it was dropped, else `0`. -/
def scanFrom (depth line column pending : Nat) : List Char → Except LexError (List Token)
  | [] => .ok [endToken line column pending]
  | c :: rest =>
    match h : Piece.next c rest with
    | .error .unterminated => .error (.unterminated line column)
    | .error (.unexpected x) => .error (.unexpected line column x)
    | .ok (.token k text, r) =>
      let depth' := if k = .lbracket then depth + 1 else if k = .rbracket then depth - 1 else depth
      (scanFrom depth' line (column + text.length) 0 r).map
        (⟨k, String.ofList text, line, column⟩ :: ·)
    | .ok (.lineEnd text, r) =>
      if depth = 0 then
        (scanFrom depth (line + 1) 1 0 r).map (⟨.newline, "", line, column⟩ :: ·)
      else scanFrom depth (line + 1) 1 text.length r
    | .ok (.blank text, r) | .ok (.comment text, r) =>
      scanFrom depth line (column + text.length) text.length r
  termination_by cs => cs.length
  decreasing_by all_goals exact Piece.next_length h

/-- The tokens of a source text, ending with `eof`, or the first scanning error. -/
def scan (source : String) : Except LexError (List Token) :=
  scanFrom 0 1 1 0 source.toList

end Token

end UiLang
