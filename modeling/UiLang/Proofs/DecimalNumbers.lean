import UiLang.Proofs.Lexemes
import UiLang.Proofs.Except
import UiLang.Program.Build

/-!
# Reading decimal numbers

`atoi` reads an optional sign and decimal digits, and refuses a text of any other
form, or one whose value leaves the range of a 64-bit signed integer. It checks
the range while the value grows, digit by digit; since appending a digit never
makes the value smaller, that agrees with checking the value of all the digits
at the end (`readDigits_of_digits`).

A number token is a run of ASCII digits (`Lexical .number`), so reading one
never meets the syntax error, and its sign is never read: it denotes the value
of its digits when that fits, and is out of range otherwise
(`readNumber_of_lexical`).
-/

namespace UiLang

open Token

/-- The value of the digits `cs` read on from the value `n`. -/
def digitsFrom (n : Nat) (cs : List Char) : Nat :=
  cs.foldl (fun acc d => acc * 10 + (d.toNat - '0'.toNat)) n

theorem digitsValue_eq_digitsFrom (s : String) : digitsValue s = digitsFrom 0 s.toList := by
  unfold digitsValue digitsFrom
  rfl

-- by rewriting: `rfl` would first try to unify the two starting values
theorem digitsFrom_cons (n : Nat) (c : Char) (cs : List Char) :
    digitsFrom n (c :: cs) = digitsFrom (n * 10 + (c.toNat - '0'.toNat)) cs := by
  simp only [digitsFrom, List.foldl_cons]

/-- Appending digits never makes the value smaller. -/
theorem le_digitsFrom (n : Nat) (cs : List Char) : n ≤ digitsFrom n cs := by
  induction cs generalizing n with
  | nil => exact le_rfl
  | cons c cs ih =>
    rw [digitsFrom_cons]
    exact Nat.le_trans (by omega) (ih _)

/-- **On digits alone, the running range check is a check of the final value.**
`readDigits` fails exactly when the value of all the digits is past `2 ^ 64 - 1`,
and then as out of range. -/
theorem readDigits_of_digits : ∀ {cs : List Char} {n : Nat}, (∀ c ∈ cs, c.isDigit = true) →
    n ≤ maxUnsigned →
    readDigits n cs =
      if digitsFrom n cs ≤ maxUnsigned then .ok (digitsFrom n cs) else .error .range
  | [], n, _, hn => by simp [readDigits, digitsFrom, hn]
  | c :: cs, n, hd, hn => by
    have hc : c.isDigit = true := hd c List.mem_cons_self
    have hcs : ∀ x ∈ cs, x.isDigit = true := fun x hx => hd x (List.mem_cons_of_mem c hx)
    have hgrow := le_digitsFrom (n * 10 + (c.toNat - '0'.toNat)) cs
    rw [digitsFrom_cons]
    rw [readDigits, if_pos hc]
    by_cases hcut : n ≥ maxUnsigned / 10 + 1
    · -- past the cutoff, the value leaves the range once the digit is appended
      rw [if_pos hcut, if_neg (by unfold maxUnsigned at hcut ⊢; omega)]
    rw [if_neg hcut]
    dsimp only
    by_cases hover : n * 10 + (c.toNat - '0'.toNat) > maxUnsigned
    · rw [if_pos hover, if_neg (by omega)]
    · rw [if_neg hover]
      exact readDigits_of_digits hcs (by omega)

/-- A text that starts with a digit has no sign. -/
theorem atoi_of_digit_head {s : String} {c : Char} {cs : List Char} (hs : s.toList = c :: cs)
    (hc : c.isDigit = true) : atoi s = signedDigits false (c :: cs) := by
  unfold atoi
  rw [hs]
  split
  -- a sign is no digit
  case h_1 ds h | h_2 ds h =>
    rw [(List.cons.inj h).1] at hc
    cases hc
  case h_3 => rfl

/-- **`atoi` on digits alone** gives their value when it fits a 64-bit signed
integer, and fails as out of range otherwise. -/
theorem atoi_of_digits {s : String} (hne : s.toList ≠ [])
    (hd : ∀ c ∈ s.toList, c.isDigit = true) :
    atoi s = if digitsValue s ≤ maxNumber then .ok (digitsValue s) else .error .range := by
  obtain ⟨c, cs, hs⟩ := List.exists_cons_of_ne_nil hne
  rw [atoi_of_digit_head hs (hd c (by simp [hs])), digitsValue_eq_digitsFrom, hs, signedDigits,
    if_neg (by simp), readDigits_of_digits (hs ▸ hd) (by unfold maxUnsigned; omega)]
  by_cases hfit : digitsFrom 0 (c :: cs) ≤ maxNumber
  · have hu : digitsFrom 0 (c :: cs) ≤ maxUnsigned := by unfold maxNumber maxUnsigned at *; omega
    simp [hu, hfit]
  · by_cases hu : digitsFrom 0 (c :: cs) ≤ maxUnsigned <;> simp [hu, hfit]

/-- **A number token denotes the value of its digits**, or is refused as out of
range, on its own line and with its own text. -/
theorem readNumber_of_lexical {t : Token} (h : Lexical .number t.text.toList) :
    readNumber t = if digitsValue t.text ≤ maxNumber then .ok (digitsValue t.text)
      else .error (.number t.line t.text .range) := by
  rw [readNumber, atoi_of_digits h.1 h.2]
  split <;> rfl

end UiLang
