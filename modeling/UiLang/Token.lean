import UiLang.Text.Quoted

/-!
# Tokens

Definition files and view files share one set of tokens. A token records its
kind, the source text it was read from, and the line and column where that text
starts. Lines count from 1; columns count characters from 1, except for the end
of input, whose column is explained in `UiLang.Token.Scan`.
-/

namespace UiLang

/-- The kinds of token of both source languages. -/
inductive TokenKind
  | eof
  | newline
  | colon
  | comma
  | dot
  | equals
  | lparen
  | rparen
  | lbracket
  | rbracket
  | string
  | number
  | boolean
  | identifier
  | arithOp
  | baseComponent
  | withKw
  | asKw
  deriving DecidableEq, Repr, Inhabited

/-- The upper-case name of a token kind, as messages and token listings show it. -/
def TokenKind.name : TokenKind → String
  | .eof => "EOF"
  | .newline => "NEWLINE"
  | .colon => "COLON"
  | .comma => "COMMA"
  | .dot => "DOT"
  | .equals => "EQUALS"
  | .lparen => "LPAREN"
  | .rparen => "RPAREN"
  | .lbracket => "LBRACKET"
  | .rbracket => "RBRACKET"
  | .string => "STRING"
  | .number => "NUMBER"
  | .boolean => "BOOLEAN"
  | .identifier => "IDENTIFIER"
  | .arithOp => "ARITH_OP"
  | .baseComponent => "BASE_COMPONENT"
  | .withKw => "WITH"
  | .asKw => "AS"

/-- The kind of a word: the six base component keywords, `WITH`, `AS`, the two
booleans, and otherwise an identifier. Keywords are case-sensitive. -/
def TokenKind.ofWord : String → TokenKind
  | "BUTTON" | "TEXT" | "PICTURE" | "CHECKBOX" | "CONTAINER" | "TEXTINPUT" => .baseComponent
  | "WITH" => .withKw
  | "AS" => .asKw
  | "true" | "false" => .boolean
  | _ => .identifier

/-- A token: its kind, its source text, and where that text starts. -/
structure Token where
  kind : TokenKind
  text : String
  line : Nat
  column : Int
  deriving DecidableEq, Repr, Inhabited

namespace Token

/-- The listing form of a token: `EOF`, `NEWLINE`, or the kind, the quoted text
and the position, as in `IDENTIFIER("hb") at 3:1`. -/
def render (t : Token) : String :=
  match t.kind with
  | .eof => "EOF"
  | .newline => "NEWLINE"
  | k => k.name ++ "(" ++ Text.quoted t.text ++ ") at " ++ toString t.line ++ ":" ++
      toString t.column

/-- How a parse error names the token it found: the end of the file, the end
of a line, or the quoted text. -/
def describe (t : Token) : String :=
  match t.kind with
  | .eof => "end of file"
  | .newline => "end of line"
  | _ => Text.quoted t.text

end Token

end UiLang
