/-!
# Binary64 values

Finite IEEE 754 binary64 values, rounding of rationals to them, and their
shortest decimal form.

A value is `±mant * 2 ^ exp` with `2 ^ 52 ≤ mant < 2 ^ 53` (normal) or
`exp = -1074` and `mant < 2 ^ 52` (subnormal or zero), and `exp ≤ 971`.
Rounding goes to the nearest value, a tie to the even mantissa; a magnitude
that rounds above the largest finite value has no binary64 form here.

The shortest decimal form of a value is the decimal with the fewest
significant digits that rounds back to it; of two such decimals with as many
digits, the nearer one, and of two equally near, the one with an even last
digit.
-/

namespace UiLang.Number

/-- A finite binary64 value `(-1) ^ neg * mant * 2 ^ exp`. -/
structure Binary64 where
  neg : Bool := false
  mant : Nat
  exp : Int
  deriving DecidableEq, Repr

/-- `2 ^ e` as a rational, for any integer `e`. -/
def pow2 (e : Int) : Rat :=
  if 0 ≤ e then ((Nat.pow 2 e.toNat : Nat) : Rat) else 1 / ((Nat.pow 2 (-e).toNat : Nat) : Rat)

/-- `10 ^ e` as a rational, for any integer `e`. -/
def pow10 (e : Int) : Rat :=
  if 0 ≤ e then ((Nat.pow 10 e.toNat : Nat) : Rat) else 1 / ((Nat.pow 10 (-e).toNat : Nat) : Rat)

namespace Binary64

/-- Zero. -/
def zero : Binary64 := ⟨false, 0, -1074⟩

/-- One. -/
def one : Binary64 := ⟨false, Nat.pow 2 52, -52⟩

/-- The exact value. -/
def toRat (x : Binary64) : Rat :=
  let v := (x.mant : Rat) * pow2 x.exp
  if x.neg then -v else v

/-- Whether `a / b ≥ 2 ^ k`, for `b > 0`. -/
def atLeastPow2 (a b : Nat) (k : Int) : Bool :=
  if 0 ≤ k then a ≥ b * Nat.pow 2 k.toNat else a * Nat.pow 2 (-k).toNat ≥ b

/-- `⌊log₂ (a / b)⌋` for positive `a` and `b`: it is `log₂ a - log₂ b` or one
less. -/
def floorLog2 (a b : Nat) : Int :=
  let k : Int := (Nat.log2 a : Int) - Nat.log2 b
  if atLeastPow2 a b k then k else k - 1

/-- The nearest binary64 magnitude to `a / b`, for positive `a` and `b`, ties to
the even mantissa; `none` above the largest finite value. -/
def roundPos (a b : Nat) : Option (Nat × Int) :=
  let e := max (floorLog2 a b - 52) (-1074)
  let num := a * Nat.pow 2 (-e).toNat
  let den := b * Nat.pow 2 e.toNat
  let q := num / den
  let r := num % den
  let m := if 2 * r > den ∨ (2 * r = den ∧ q % 2 = 1) then q + 1 else q
  let (m, e) := if m = Nat.pow 2 53 then (Nat.pow 2 52, e + 1) else (m, e)
  if e > 971 then none else some (m, e)

/-- The binary64 value nearest to `q`. -/
def ofRat (q : Rat) : Option Binary64 :=
  if q = 0 then some zero
  else
    let a := q.num.natAbs
    (roundPos a q.den).map fun (m, e) => ⟨q < 0, m, e⟩

/-- `⌊log₁₀ v⌋` for a positive rational `v = a / b`: it is the difference of
the digit counts of `a` and `b`, or one less. -/
def floorLog10 (v : Rat) : Int :=
  let a := v.num.natAbs
  let b := v.den
  let k : Int := ((Nat.toDigits 10 a).length : Int) - (Nat.toDigits 10 b).length
  if v ≥ pow10 k then k else k - 1

/-- Strips trailing zeros from `d * 10 ^ p`, keeping its value. -/
def trimZeros (d : Nat) (p : Int) : Nat × Int :=
  if h : d ≠ 0 ∧ d % 10 = 0 then trimZeros (d / 10) (p + 1) else (d, p)
  termination_by d
  decreasing_by omega

/-- The shortest decimal form `d * 10 ^ p` of a positive value `mant * 2 ^ exp`,
with no trailing zeros in `d`. -/
def shortestPos (mant : Nat) (exp : Int) : Nat × Int :=
  let v : Rat := (mant : Rat) * pow2 exp
  let above := pow2 exp / 2
  let below := if mant = Nat.pow 2 52 ∧ exp > -1074 then pow2 exp / 4 else pow2 exp / 2
  let inclusive := mant % 2 = 0
  let inside (x : Rat) : Bool :=
    (v - below < x ∧ x < v + above) || (inclusive && (x = v - below || x = v + above))
  let k := floorLog10 v
  let attempt (n : Nat) : Option (Nat × Int) :=
    let p : Int := k - n + 1
    let lo := (v / pow10 p).floor.toNat
    let hi := lo + 1
    let xlo := (lo : Rat) * pow10 p
    let xhi := (hi : Rat) * pow10 p
    match inside xlo, inside xhi with
    | true, true =>
      if v - xlo < xhi - v then some (lo, p)
      else if xhi - v < v - xlo then some (hi, p)
      else if lo % 2 = 0 then some (lo, p) else some (hi, p)
    | true, false => some (lo, p)
    | false, true => some (hi, p)
    | false, false => none
  let (d, p) := ((List.range 17).findSome? fun i => attempt (i + 1)).getD
    ((v / pow10 (k - 16)).floor.toNat, k - 16)
  trimZeros d p

/-- The shortest decimal form `±d * 10 ^ p` of a value; zero is `0 * 10 ^ 0`. -/
def shortest (x : Binary64) : Bool × Nat × Int :=
  if x.mant = 0 then (x.neg, 0, 0) else (x.neg, shortestPos x.mant x.exp)

end Binary64

end UiLang.Number
