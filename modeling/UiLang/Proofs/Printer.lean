import UiLang.Proofs.Lexemes
import UiLang.Program.Load

/-!
# Writing programs back as source text

A definition section is written as one `KIND Name:` header per component, one
`prop = value` line per assignment, and one `Comp WITH a = v, ... AS name` line
per variable; a view is written as one usage per line. Strings take a quote
they do not hold, numbers are written in decimal, lists as `[a, b]`, calls as
`f(a, b)`, and members and views as `X.y` and `V.view`. Programs are compared
up to line numbers (`unlined`), which a written text does not keep.

Not every program can be written so that reading gives it back. The ones that
can (`WellFormed`) use names that are words and no keywords, strings a quote
can hold, numbers a literal can denote, lists with items, arithmetic with an
operator, parameters that are the names a component reads, and a call kind that
is the one its name selects. A member argument is never `X.view`, which reads
as a view, an instance never passes a lone call, and an instance that stands on
a view line passes an argument, or it would read as a variable name.

Written text scans into the lexemes it was written from (`Definition.scan_print`,
`View.scan_print`).
-/

namespace UiLang

open Token

/-! ## What can be written -/

/-- A name as source text writes it: a word that is no keyword. -/
def IsName (s : String) : Prop := IsWord s.toList ∧ TokenKind.ofWord s = .identifier

/-- A string a quote can hold: no line end, and not both quote characters. -/
def Quotable (s : String) : Prop :=
  (∀ c ∈ s.toList, c ≠ '\n' ∧ c ≠ '\r') ∧ ('\'' ∉ s.toList ∨ '"' ∉ s.toList)

/-- A number a literal denotes. -/
def Literal (n : Int) : Prop := 0 ≤ n ∧ n ≤ maxNumber

/-- The quote a string is written with: `'`, unless the string holds one. -/
def quoteFor (s : String) : Char := if '\'' ∈ s.toList then '"' else '\''

/-- A string between its quotes. -/
def quoted (s : String) : String := String.ofList (quoteFor s :: s.toList ++ [quoteFor s])

/-- A number in decimal. -/
def numeral (n : Int) : String := toString n.toNat

/-- The keyword of a base component. -/
def ComponentKind.keyword : ComponentKind → String
  | .button => "BUTTON"
  | .text => "TEXT"
  | .picture => "PICTURE"
  | .checkbox => "CHECKBOX"
  | .container => "CONTAINER"
  | .textInput => "TEXTINPUT"
  | .invalid => ""

/-- The separator of list items, call arguments and instance arguments. -/
def comma : List Lexeme := [(.comma, ",")]

namespace Member

def WellFormed (m : Member) : Prop := IsName m.obj ∧ IsName m.prop

def unlined (m : Member) : Member := { m with line := 0 }

def lexemes (m : Member) : List Lexeme := [(.identifier, m.obj), (.dot, "."), (.identifier, m.prop)]

end Member

namespace Operand

def WellFormed : Operand → Prop
  | .num n => Literal n
  | .var n _ => IsName n
  | .member m => m.WellFormed

def unlined : Operand → Operand
  | .num n => .num n
  | .var n _ => .var n 0
  | .member m => .member m.unlined

def lexemes : Operand → List Lexeme
  | .num n => [(.number, numeral n)]
  | .var n _ => [(.identifier, n)]
  | .member m => m.lexemes

end Operand

/-- The lexemes of the steps `op operand ...` of arithmetic. -/
def stepLexemes (steps : List (Operator × Operand)) : List Lexeme :=
  steps.flatMap fun s => (.arithOp, s.1.symbol) :: s.2.lexemes

namespace Scalar

def WellFormed : Scalar → Prop
  | .str s => Quotable s
  | .num n => Literal n
  | .bool _ => True
  | .var n _ => IsName n
  | .arith first steps => first.WellFormed ∧ steps ≠ [] ∧ ∀ s ∈ steps, s.2.WellFormed

def unlined : Scalar → Scalar
  | .str s => .str s
  | .num n => .num n
  | .bool b => .bool b
  | .var n _ => .var n 0
  | .arith first steps => .arith first.unlined (steps.map fun s => (s.1, s.2.unlined))

def lexemes : Scalar → List Lexeme
  | .str s => [(.string, quoted s)]
  | .num n => [(.number, numeral n)]
  | .bool b => [(.boolean, toString b)]
  | .var n _ => [(.identifier, n)]
  | .arith first steps => first.lexemes ++ stepLexemes steps

end Scalar

namespace Arg

def WellFormed : Arg → Prop
  | .member m => m.WellFormed ∧ m.prop ≠ "view"
  | .view n => IsName n
  | .scalar s => s.WellFormed

def unlined : Arg → Arg
  | .member m => .member m.unlined
  | .view n => .view n
  | .scalar s => .scalar s.unlined

def lexemes : Arg → List Lexeme
  | .member m => m.lexemes
  | .view n => [(.identifier, n), (.dot, "."), (.identifier, "view")]
  | .scalar s => s.lexemes

end Arg

namespace Call

def WellFormed (c : Call) : Prop :=
  IsName c.name ∧ c.kind = FunctionKind.ofName c.name ∧ ∀ a ∈ c.args, a.WellFormed

def unlined (c : Call) : Call := { c with args := c.args.map Arg.unlined }

def lexemes (c : Call) : List Lexeme :=
  (.identifier, c.name) :: (.lparen, "(") :: comma.intercalate (c.args.map Arg.lexemes) ++
    [(.rparen, ")")]

end Call

namespace Value

def WellFormed : Value → Prop
  | .scalar s => s.WellFormed
  | .list items => items ≠ [] ∧ ∀ s ∈ items, s.WellFormed
  | .calls items => items ≠ [] ∧ ∀ c ∈ items, c.WellFormed
  | .call c => c.WellFormed

def unlined : Value → Value
  | .scalar s => .scalar s.unlined
  | .list items => .list (items.map Scalar.unlined)
  | .calls items => .calls (items.map Call.unlined)
  | .call c => .call c.unlined

def lexemes : Value → List Lexeme
  | .scalar s => s.lexemes
  | .list items =>
    (.lbracket, "[") :: comma.intercalate (items.map Scalar.lexemes) ++ [(.rbracket, "]")]
  | .calls items =>
    (.lbracket, "[") :: comma.intercalate (items.map Call.lexemes) ++ [(.rbracket, "]")]
  | .call c => c.lexemes

/-- Whether a value is a lone call, which no instance argument can be. -/
def isCall : Value → Bool
  | .call _ => true
  | _ => false

end Value

namespace Assignment

def WellFormed (a : Assignment) : Prop := IsName a.prop ∧ a.value.WellFormed

def unlined (a : Assignment) : Assignment := { a with value := a.value.unlined, line := 0 }

def lexemes (a : Assignment) : List Lexeme :=
  (.identifier, a.prop) :: (.equals, "=") :: a.value.lexemes ++ [(.newline, "")]

end Assignment

namespace Component

def WellFormed (c : Component) : Prop :=
  c.kind ≠ .invalid ∧ IsName c.name ∧ c.params = inferParams c.assignments ∧
    ∀ a ∈ c.assignments, a.WellFormed

def unlined (c : Component) : Component :=
  { c with line := 0, assignments := c.assignments.map Assignment.unlined }

def lexemes (c : Component) : List Lexeme :=
  [(.baseComponent, c.kind.keyword), (.identifier, c.name), (.colon, ":"), (.newline, "")] ++
    c.assignments.flatMap Assignment.lexemes

end Component

namespace Instance

def WellFormed (i : Instance) : Prop :=
  IsName i.name ∧ ∀ a ∈ i.args, IsName a.1 ∧ a.2.WellFormed ∧ a.2.isCall = false

def unlined (i : Instance) : Instance :=
  { i with line := 0, args := i.args.map fun a => (a.1, a.2.unlined) }

def lexemes (i : Instance) : List Lexeme :=
  (.identifier, i.name) ::
    if i.args.isEmpty then []
    else (.withKw, "WITH") ::
      comma.intercalate (i.args.map fun a => (.identifier, a.1) :: (.equals, "=") :: a.2.lexemes)

end Instance

namespace Variable

def WellFormed (v : Variable) : Prop := IsName v.name ∧ v.inst.WellFormed

def unlined (v : Variable) : Variable := { v with line := 0, inst := v.inst.unlined }

def lexemes (v : Variable) : List Lexeme :=
  v.inst.lexemes ++ [(.asKw, "AS"), (.identifier, v.name), (.newline, "")]

end Variable

namespace Definition

def WellFormed (d : Definition) : Prop :=
  (∀ c ∈ d.components, c.WellFormed) ∧ ∀ v ∈ d.vars, v.WellFormed

def unlined (d : Definition) : Definition :=
  ⟨d.components.map Component.unlined, d.vars.map Variable.unlined⟩

def lexemes (d : Definition) : List Lexeme :=
  d.components.flatMap Component.lexemes ++ d.vars.flatMap Variable.lexemes

/-- The source text of a definition section. -/
def print (d : Definition) : String := String.ofList (spell d.lexemes)

end Definition

namespace Usage

def WellFormed : Usage → Prop
  | .ref n _ => IsName n
  | .inst i => i.WellFormed ∧ i.args ≠ []

def unlined : Usage → Usage
  | .ref n _ => .ref n 0
  | .inst i => .inst i.unlined

def lexemes : Usage → List Lexeme
  | .ref n _ => [(.identifier, n), (.newline, "")]
  | .inst i => i.lexemes ++ [(.newline, "")]

end Usage

namespace View

def WellFormed (v : View) : Prop := ∀ u ∈ v.usages, u.WellFormed

def unlined (v : View) : View := { v with usages := v.usages.map Usage.unlined }

def lexemes (v : View) : List Lexeme := v.usages.flatMap Usage.lexemes

/-- The source text of a view. -/
def print (v : View) : String := String.ofList (spell v.lexemes)

end View

/-! ## Written lexemes have the texts of their kinds -/

theorem IsName.lexical {s : String} (h : IsName s) : Lexical .identifier s.toList :=
  ⟨h.1, by rw [String.ofList_toList]; exact h.2⟩

theorem quoteFor_not_mem {s : String} (h : Quotable s) : quoteFor s ∉ s.toList := by
  unfold quoteFor
  split
  · next hq => exact h.2.resolve_left (fun hn => hn hq)
  · assumption

theorem Quotable.lexical {s : String} (h : Quotable s) : Lexical .string (quoted s).toList := by
  refine ⟨quoteFor s, s.toList, ?_, fun x hx => ?_, by simp [quoted]⟩
  · unfold quoteFor
    split <;> simp
  · have hq : x ≠ quoteFor s := fun hq => quoteFor_not_mem h (hq ▸ hx)
    simp [inString, isLineEnd, hq, (h.1 x hx).1, (h.1 x hx).2]

theorem numeral_toList (n : Int) : (numeral n).toList = Nat.toDigits 10 n.toNat := by
  simp [numeral, Nat.repr]

@[simp] theorem numeral_lexical (n : Int) : Lexical .number (numeral n).toList := by
  rw [numeral_toList]
  exact ⟨Nat.toDigits_ne_nil, fun _ hc => Nat.isDigit_of_mem_toDigits (by decide) (by decide) hc⟩

@[simp] theorem boolean_lexical (b : Bool) : Lexical .boolean (toString b).toList := by
  cases b
  · show Lexical .boolean "false".toList
    simp [Lexical, IsWord]
    decide
  · show Lexical .boolean "true".toList
    simp [Lexical, IsWord]
    decide

@[simp] theorem symbol_lexical (op : Operator) : Lexical .arithOp op.symbol.toList := by
  cases op <;> simp (disch := decide) [lexical_of_punctuation, Operator.symbol]

theorem keyword_lexical {k : ComponentKind} (h : k ≠ .invalid) :
    Lexical .baseComponent k.keyword.toList := by
  cases k <;> simp [ComponentKind.keyword, Lexical, IsWord] at * <;> decide

theorem isName_view : IsName "view" := by
  simp [IsName, IsWord]
  decide

-- keyword texts are stated as character lists, the form `simp` leaves them in
@[simp] theorem withKw_lexical : Lexical .withKw ['W', 'I', 'T', 'H'] := by
  simp [Lexical, IsWord]
  decide

@[simp] theorem asKw_lexical : Lexical .asKw ['A', 'S'] := by
  simp [Lexical, IsWord]
  decide

/-! ## Written lexemes scan back -/

theorem spellable_comma : Spellable comma := by
  simp (disch := decide) [comma, lexical_of_punctuation]

theorem spellable_commaList {α : Type} {f : α → List Lexeme} {xs : List α}
    (h : ∀ x ∈ xs, Spellable (f x)) : Spellable (comma.intercalate (xs.map f)) := by
  refine spellable_comma.intercalate fun l hl => ?_
  obtain ⟨x, hx, rfl⟩ := List.mem_map.1 hl
  exact h x hx

theorem inline_commaList {α : Type} {f : α → List Lexeme} {xs : List α}
    (h : ∀ x ∈ xs, Inline (f x)) : Inline (comma.intercalate (xs.map f)) := by
  refine Inline.intercalate (by simp [Inline, comma]) fun l hl => ?_
  obtain ⟨x, hx, rfl⟩ := List.mem_map.1 hl
  exact h x hx

namespace Member

theorem spellable {m : Member} (h : m.WellFormed) : Spellable m.lexemes := by
  simp (disch := decide) [lexemes, lexical_of_punctuation, h.1.lexical, h.2.lexical]

theorem inline (m : Member) : Inline m.lexemes := by
  simp [Inline, lexemes]

end Member

namespace Operand

theorem spellable {o : Operand} (h : o.WellFormed) : Spellable o.lexemes := by
  cases o with
  | num n => simp [lexemes]
  | var n _ => simpa [lexemes] using IsName.lexical h
  | member m => exact Member.spellable h

theorem inline (o : Operand) : Inline o.lexemes := by
  cases o <;> simp [Inline, lexemes, Member.lexemes]

end Operand

theorem spellable_stepLexemes {steps : List (Operator × Operand)}
    (h : ∀ s ∈ steps, s.2.WellFormed) : Spellable (stepLexemes steps) := by
  simp only [stepLexemes, spellable_flatMap, spellable_cons]
  intro s hs
  exact ⟨⟨symbol_lexical s.1, by decide⟩, Operand.spellable (h s hs)⟩

theorem inline_stepLexemes (steps : List (Operator × Operand)) : Inline (stepLexemes steps) := by
  intro x hx
  obtain ⟨s, -, hx⟩ := List.mem_flatMap.1 hx
  rcases List.mem_cons.1 hx with rfl | hx
  · simp
  · exact s.2.inline x hx

namespace Scalar

theorem spellable {s : Scalar} (h : s.WellFormed) : Spellable s.lexemes := by
  cases s with
  | str t => simpa [lexemes] using Quotable.lexical h
  | num n => simp [lexemes]
  | bool b => simp [lexemes]
  | var n _ => simpa [lexemes] using IsName.lexical h
  | arith first steps =>
    simp only [lexemes, spellable_append]
    exact ⟨Operand.spellable h.1, spellable_stepLexemes h.2.2⟩

theorem inline (s : Scalar) : Inline s.lexemes := by
  cases s with
  | arith first steps => exact List.forall_mem_append.2 ⟨first.inline, inline_stepLexemes steps⟩
  | str | num | bool | var => simp [Inline, lexemes]

end Scalar

namespace Arg

theorem spellable {a : Arg} (h : a.WellFormed) : Spellable a.lexemes := by
  cases a with
  | member m => exact Member.spellable h.1
  | view n =>
    simp (disch := decide) [lexemes, lexical_of_punctuation, IsName.lexical h]
    simpa using isName_view.lexical
  | scalar s => exact Scalar.spellable h

theorem inline (a : Arg) : Inline a.lexemes := by
  cases a with
  | member m => exact m.inline
  | view n => simp [Inline, lexemes]
  | scalar s => exact s.inline

end Arg

namespace Call

theorem spellable {c : Call} (h : c.WellFormed) : Spellable c.lexemes := by
  have hargs := spellable_commaList fun a ha => Arg.spellable (h.2.2 a ha)
  simp (disch := decide) [lexemes, lexical_of_punctuation, h.1.lexical, hargs]

theorem inline (c : Call) : Inline c.lexemes := by
  have hargs : Inline (comma.intercalate (c.args.map Arg.lexemes)) :=
    inline_commaList fun a _ => a.inline
  intro x hx
  simp only [lexemes, List.cons_append, List.mem_cons, List.mem_append, List.not_mem_nil,
    or_false] at hx
  rcases hx with rfl | rfl | hx | rfl
  · simp
  · simp
  · exact hargs x hx
  · simp

end Call

namespace Value

theorem spellable {v : Value} (h : v.WellFormed) : Spellable v.lexemes := by
  cases v with
  | scalar s => exact Scalar.spellable h
  | list items =>
    have hitems := spellable_commaList fun s hs => Scalar.spellable (h.2 s hs)
    simp (disch := decide) [lexemes, lexical_of_punctuation, hitems]
  | calls items =>
    have hitems := spellable_commaList fun c hc => Call.spellable (h.2 c hc)
    simp (disch := decide) [lexemes, lexical_of_punctuation, hitems]
  | call c => exact Call.spellable h

theorem balanced (v : Value) : Balanced v.lexemes := by
  cases v with
  | scalar s => exact s.inline.balanced
  | list items => exact (inline_commaList fun s _ => s.inline).balanced.bracketed
  | calls items => exact (inline_commaList fun c _ => c.inline).balanced.bracketed
  | call c => exact c.inline.balanced

end Value

namespace Assignment

theorem spellable {a : Assignment} (h : a.WellFormed) : Spellable a.lexemes := by
  simp (disch := decide) [lexemes, lexical_of_punctuation, h.1.lexical, Value.spellable h.2]

theorem lines (a : Assignment) : Lines a.lexemes :=
  (Balanced.cons (by simp [Inline]) (Balanced.cons (by simp [Inline]) a.value.balanced)).line

end Assignment

namespace Component

theorem spellable {c : Component} (h : c.WellFormed) : Spellable c.lexemes := by
  have hassigns : ∀ a ∈ c.assignments, Spellable a.lexemes :=
    fun a ha => Assignment.spellable (h.2.2.2 a ha)
  simp (disch := decide) [lexemes, lexical_of_punctuation, keyword_lexical h.1, h.2.1.lexical]
  exact hassigns

theorem lines (c : Component) : Lines c.lexemes := by
  have hhead : Inline [(.baseComponent, c.kind.keyword), (.identifier, c.name), (.colon, ":")] := by
    simp [Inline]
  exact hhead.balanced.line.append (lines_flatMap fun a _ => a.lines)

end Component

namespace Instance

theorem spellable {i : Instance} (h : i.WellFormed) : Spellable i.lexemes := by
  have hargs : Spellable (comma.intercalate
      (i.args.map fun a => (.identifier, a.1) :: (.equals, "=") :: a.2.lexemes)) :=
    spellable_commaList fun a ha => by
      simp (disch := decide) [lexical_of_punctuation, (h.2 a ha).1.lexical,
        Value.spellable (h.2 a ha).2.1]
  unfold lexemes
  split <;> simp (disch := decide) [h.1.lexical, hargs]

theorem balanced (i : Instance) : Balanced i.lexemes := by
  unfold lexemes
  split
  · exact Balanced.cons (by simp [Inline]) balanced_nil
  · refine Balanced.cons (by simp [Inline]) (Balanced.cons (by simp [Inline]) ?_)
    refine balanced_intercalate (Inline.balanced (by simp [Inline, comma])) ?_
    intro l hl
    obtain ⟨a, -, rfl⟩ := List.mem_map.1 hl
    exact Balanced.cons (by simp [Inline]) (Balanced.cons (by simp [Inline]) a.2.balanced)

end Instance

namespace Variable

theorem spellable {v : Variable} (h : v.WellFormed) : Spellable v.lexemes := by
  simp [lexemes, Instance.spellable h.2, h.1.lexical]

theorem lines (v : Variable) : Lines v.lexemes := by
  have hsplit : v.lexemes =
      (v.inst.lexemes ++ [(.asKw, "AS"), (.identifier, v.name)]) ++ [(.newline, "")] := by
    simp [lexemes]
  rw [hsplit]
  exact (v.inst.balanced.append (Inline.balanced (by simp [Inline]))).line

end Variable

namespace Definition

theorem spellable {d : Definition} (h : d.WellFormed) : Spellable d.lexemes := by
  simp only [lexemes, spellable_append, spellable_flatMap]
  exact ⟨fun c hc => Component.spellable (h.1 c hc), fun v hv => Variable.spellable (h.2 v hv)⟩

theorem lines (d : Definition) : Lines d.lexemes :=
  (lines_flatMap fun c _ => c.lines).append (lines_flatMap fun v _ => v.lines)

/-- The text of a definition section scans into the lexemes it was written
from. -/
theorem scan_print {d : Definition} (h : d.WellFormed) :
    ∃ ts, scan d.print = .ok ts ∧ ts.map lex = d.lexemes ++ [(.eof, "")] :=
  scan_spell (spellable h) d.lines

end Definition

namespace Usage

theorem spellable {u : Usage} (h : u.WellFormed) : Spellable u.lexemes := by
  cases u with
  | ref n _ => simpa [lexemes] using IsName.lexical h
  | inst i => simp [lexemes, Instance.spellable h.1]

theorem lines (u : Usage) : Lines u.lexemes := by
  cases u with
  | ref n _ => exact (Inline.balanced (by simp [Inline]) : Balanced [(.identifier, n)]).line
  | inst i => exact i.balanced.line

end Usage

namespace View

theorem spellable {v : View} (h : v.WellFormed) : Spellable v.lexemes := by
  simp only [lexemes, spellable_flatMap]
  exact fun u hu => Usage.spellable (h u hu)

theorem lines (v : View) : Lines v.lexemes :=
  lines_flatMap fun u _ => u.lines

/-- The text of a view scans into the lexemes it was written from. -/
theorem scan_print {v : View} (h : v.WellFormed) :
    ∃ ts, scan v.print = .ok ts ∧ ts.map lex = v.lexemes ++ [(.eof, "")] :=
  scan_spell (spellable h) v.lines

end View

end UiLang
