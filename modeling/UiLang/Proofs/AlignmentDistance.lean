import Mathlib.Algebra.Order.Field.Basic
import Mathlib.Tactic.Linarith
import UiLang.Suggest.Closest

/-!
# The alignment distance and the similarity of names

`editDistance` fills the table of the optimal string alignment recurrence
(`alignment`) one row at a time and keeps only the last two rows. The loop over
the columns builds a row from the two before it (`nextRow_eq`), the loop over the
rows keeps the last two, so the answer is the last entry of the table
(`editDistance_eq_alignment`). Both loops are folds over `0, 1, …, n - 1`, read
through one invariant lemma (`foldl_range_induction`).

The laws of the distance are facts about the recurrence, each proved by
induction along it: swapping the two texts transposes the table
(`alignment_comm`), an entry lies between the difference and the larger of the
two prefix lengths (`alignment_ge`, `alignment_le_max`), and it is `0` exactly on
equal prefixes (`alignment_eq_zero_iff`). So the similarity of two names, read as
an exact rational, divides by a positive length, lies in `[0, 1]` and is `1` only
for names equal up to case (`editDistance_laws`).
-/

namespace UiLang.Suggest

/-- `1` when character `i` of `a` differs from character `j` of `b` (counting
from `0`), else `0`. -/
def mismatch (a b : List Char) (i j : Nat) : Nat :=
  if a[i]? = b[j]? then 0 else 1

/-- The optimal string alignment recurrence: `alignment a b i j` is the distance
between the first `i` characters of `a` and the first `j` of `b`, where an
insertion, a deletion, a substitution and a swap of two adjacent characters each
cost `1`. -/
def alignment (a b : List Char) : Nat → Nat → Nat
  | i, 0 => i
  | 0, j + 1 => j + 1
  | i + 1, j + 1 =>
    let best := min (min (alignment a b i (j + 1) + 1) (alignment a b (i + 1) j + 1))
      (alignment a b i j + mismatch a b i j)
    if 0 < i ∧ 0 < j ∧ a[i]? = b[j - 1]? ∧ a[i - 1]? = b[j]? then
      min best (alignment a b (i - 1) (j - 1) + 1)
    else best
termination_by i j => i + j

/-- A loop over `0, 1, …, n - 1` keeps an invariant indexed by the rounds done. -/
theorem foldl_range_induction {β : Type} (f : β → Nat → β) (init : β) (P : Nat → β → Prop)
    (n : Nat) (h0 : P 0 init) (hstep : ∀ k < n, ∀ r, P k r → P (k + 1) (f r k)) :
    P n ((List.range n).foldl f init) := by
  induction n with
  | zero => simpa using h0
  | succ n ih =>
    rw [List.range_succ, List.foldl_append, List.foldl_cons, List.foldl_nil]
    exact hstep n (by omega) _ (ih fun k hk => hstep k (by omega))

section Alignment

variable (a b : List Char)

theorem mismatch_le_one (i j : Nat) : mismatch a b i j ≤ 1 := by
  unfold mismatch
  split <;> omega

theorem mismatch_eq_zero_iff (i j : Nat) : mismatch a b i j = 0 ↔ a[i]? = b[j]? := by
  unfold mismatch
  split <;> simp_all

theorem mismatch_comm (i j : Nat) : mismatch a b i j = mismatch b a j i := by
  simp only [mismatch, eq_comm]

@[simp] theorem alignment_zero_right (i : Nat) : alignment a b i 0 = i :=
  alignment.eq_1 a b i

@[simp] theorem alignment_zero_left (j : Nat) : alignment a b 0 j = j := by
  cases j with
  | zero => exact alignment.eq_1 a b 0
  | succ j => exact alignment.eq_2 a b j

/-- One inner cell of the table, from its three neighbours and, after a swap of
adjacent characters, the cell two steps back on the diagonal. -/
theorem alignment_succ_succ (i j : Nat) :
    alignment a b (i + 1) (j + 1) =
      if 0 < i ∧ 0 < j ∧ a[i]? = b[j - 1]? ∧ a[i - 1]? = b[j]? then
        min (min (min (alignment a b i (j + 1) + 1) (alignment a b (i + 1) j + 1))
          (alignment a b i j + mismatch a b i j)) (alignment a b (i - 1) (j - 1) + 1)
      else
        min (min (alignment a b i (j + 1) + 1) (alignment a b (i + 1) j + 1))
          (alignment a b i j + mismatch a b i j) :=
  alignment.eq_3 a b i j

/-- A swap at cell `(i + 1, j + 1)` of one table is a swap at `(j + 1, i + 1)` of
the other. -/
theorem swap_comm {i j : Nat} :
    (0 < i ∧ 0 < j ∧ a[i]? = b[j - 1]? ∧ a[i - 1]? = b[j]?) ↔
      (0 < j ∧ 0 < i ∧ b[j]? = a[i - 1]? ∧ b[j - 1]? = a[i]?) := by
  constructor <;> rintro ⟨h₁, h₂, h₃, h₄⟩ <;> exact ⟨h₂, h₁, h₄.symm, h₃.symm⟩

/-- **Swapping the texts transposes the table.** The recurrence reads its two
texts alike, cell by cell. -/
theorem alignment_comm (i j : Nat) : alignment a b i j = alignment b a j i := by
  fun_induction alignment a b i j with
  | case1 i => simp
  | case2 j => simp
  | case3 i j best hswap ih₁ ih₂ ih₃ ih₄ =>
    rw [alignment_succ_succ b a, if_pos ((swap_comm a b).1 hswap), ← ih₁, ← ih₂, ← ih₃, ← ih₄,
      ← mismatch_comm]
    omega
  | case4 i j best hswap ih₁ ih₂ ih₃ =>
    rw [alignment_succ_succ b a, if_neg (mt (swap_comm a b).2 hswap), ← ih₁, ← ih₂, ← ih₃,
      ← mismatch_comm]
    omega

/-- An inner entry is at most each of its three neighbouring candidates. -/
theorem alignment_succ_succ_le (i j : Nat) :
    alignment a b (i + 1) (j + 1) ≤ alignment a b i (j + 1) + 1 ∧
      alignment a b (i + 1) (j + 1) ≤ alignment a b (i + 1) j + 1 ∧
      alignment a b (i + 1) (j + 1) ≤ alignment a b i j + mismatch a b i j := by
  rw [alignment_succ_succ]
  split <;> omega

/-- A bound below every candidate of an inner entry is below the entry. -/
theorem le_alignment_succ_succ {n i j : Nat} (h₁ : n ≤ alignment a b i (j + 1) + 1)
    (h₂ : n ≤ alignment a b (i + 1) j + 1) (h₃ : n ≤ alignment a b i j + mismatch a b i j)
    (h₄ : n ≤ alignment a b (i - 1) (j - 1) + 1) : n ≤ alignment a b (i + 1) (j + 1) := by
  rw [alignment_succ_succ]
  split <;> omega

/-- An entry is at least the difference of its two prefix lengths: each edit
changes a length by at most one. -/
theorem alignment_ge : ∀ i j, i - j ≤ alignment a b i j ∧ j - i ≤ alignment a b i j
  | i, 0 => by simp
  | 0, j + 1 => by simp
  | i + 1, j + 1 => by
    -- every candidate of the cell is at least the difference
    have h₁ := alignment_ge i (j + 1)
    have h₂ := alignment_ge (i + 1) j
    have h₃ := alignment_ge i j
    have h₄ := alignment_ge (i - 1) (j - 1)
    constructor <;> apply le_alignment_succ_succ <;> omega
termination_by i j => i + j

/-- An entry is at most the larger of its two prefix lengths: substitute along
the shorter one, then insert or delete the rest. -/
theorem alignment_le_max : ∀ i j, alignment a b i j ≤ max i j
  | i, 0 => by simp
  | 0, j + 1 => by simp
  | i + 1, j + 1 => by
    -- the diagonal candidate substitutes the last two characters
    have hdiag := (alignment_succ_succ_le a b i j).2.2
    have := alignment_le_max i j
    have := mismatch_le_one a b i j
    omega

/-- An inner entry is `0` exactly when the entry before it on the diagonal is,
and the two characters it adds agree: every other candidate costs `1`. -/
theorem alignment_succ_succ_eq_zero (i j : Nat) :
    alignment a b (i + 1) (j + 1) = 0 ↔ alignment a b i j = 0 ∧ a[i]? = b[j]? := by
  rw [← mismatch_eq_zero_iff, alignment_succ_succ]
  split <;> omega

/-- **The distance of two prefixes is `0` exactly when they are equal.** -/
theorem alignment_eq_zero_iff : ∀ i j,
    alignment a b i j = 0 ↔ i = j ∧ ∀ k < i, a[k]? = b[k]?
  | i, 0 => by
    rw [alignment_zero_right]
    constructor
    · rintro rfl
      simp
    · rintro ⟨rfl, -⟩
      rfl
  | 0, j + 1 => by simp
  | i + 1, j + 1 => by
    rw [alignment_succ_succ_eq_zero, alignment_eq_zero_iff i j]
    constructor
    · rintro ⟨⟨rfl, hpre⟩, hlast⟩
      refine ⟨rfl, fun k hk => ?_⟩
      rcases Nat.lt_succ_iff_lt_or_eq.1 hk with hk | rfl
      · exact hpre k hk
      · exact hlast
    · rintro ⟨hij, hpre⟩
      obtain rfl : i = j := by omega
      exact ⟨⟨rfl, fun k hk => hpre k (by omega)⟩, hpre i (by omega)⟩

/-- Entries `0 … n` of row `i` of the table. -/
def alignmentRow (i n : Nat) : Array Nat :=
  ((List.range (n + 1)).map (alignment a b i)).toArray

theorem alignmentRow_getD {i n j : Nat} (h : j ≤ n) :
    (alignmentRow a b i n).getD j 0 = alignment a b i j := by
  simp [alignmentRow, Array.getD_eq_getD_getElem?, List.getElem?_range (Nat.lt_succ_of_le h)]

theorem alignmentRow_zero (i : Nat) : alignmentRow a b i 0 = #[i] := by
  simp [alignmentRow]

theorem alignmentRow_succ (i n : Nat) :
    alignmentRow a b i (n + 1) = (alignmentRow a b i n).push (alignment a b i (n + 1)) := by
  simp [alignmentRow, List.range_succ]

/-- **One row of the table.** Given rows `i` and `i - 1`, the loop over the
columns builds row `i + 1`; row `i - 1` is read only past a swap, so it may be
anything when `i = 0`. -/
theorem nextRow_eq {i : Nat} {prev prev2 : Array Nat}
    (hprev : prev = alignmentRow a b i b.length)
    (hprev2 : 0 < i → prev2 = alignmentRow a b (i - 1) b.length) :
    nextRow a.toArray b.toArray (i + 1) prev prev2 = alignmentRow a b (i + 1) b.length := by
  unfold nextRow
  -- after `k` columns the row holds its entries `0 … k`
  refine foldl_range_induction _ _ (fun k row => row = alignmentRow a b (i + 1) k) _
    (alignmentRow_zero a b (i + 1)).symm ?_
  rintro k hk row rfl
  simp only [List.size_toArray] at hk
  rw [alignmentRow_succ, alignment_succ_succ]
  -- each read of the two rows before is an entry of the table
  have hup : prev.getD (k + 1) 0 = alignment a b i (k + 1) := hprev ▸ alignmentRow_getD a b (by omega)
  have hdiag : prev.getD k 0 = alignment a b i k := hprev ▸ alignmentRow_getD a b (by omega)
  have hleft : (alignmentRow a b (i + 1) k).getD k 0 = alignment a b (i + 1) k :=
    alignmentRow_getD a b (Nat.le_refl k)
  have hi : (i + 1 > 1) = (0 < i) := propext (by omega)
  have hk : (k + 1 > 1) = (0 < k) := propext (by omega)
  simp only [Nat.add_sub_cancel, hup, hdiag, hleft, List.getElem?_toArray, mismatch, hi, hk,
    show k + 1 - 2 = k - 1 by omega, show i + 1 - 2 = i - 1 by omega]
  by_cases hswap : 0 < i ∧ 0 < k ∧ a[i]? = b[k - 1]? ∧ a[i - 1]? = b[k]?
  · -- past a swap the loop reads row `i - 1`
    have hback : prev2.getD (k - 1) 0 = alignment a b (i - 1) (k - 1) :=
      hprev2 hswap.1 ▸ alignmentRow_getD a b (by omega)
    rw [if_pos hswap, if_pos hswap, hback]
  · rw [if_neg hswap, if_neg hswap]

end Alignment

/-- **The loop computes the recurrence.** The distance is the last entry of the
table: the two shortcuts for an empty text are its borders, and otherwise the
loop over the rows ends holding the last row. -/
theorem editDistance_eq_alignment (a b : List Char) :
    editDistance a b = alignment a b a.length b.length := by
  unfold editDistance
  split
  next ha => simp [List.isEmpty_iff.1 ha]
  split
  next hb => simp [List.isEmpty_iff.1 hb]
  dsimp only
  generalize hrows : List.foldl _ _ _ = rows
  -- after `k` rounds the loop holds rows `k - 1` and `k`
  have hinv : rows.2 = alignmentRow a b a.length b.length ∧
      (0 < a.length → rows.1 = alignmentRow a b (a.length - 1) b.length) := by
    refine hrows ▸ foldl_range_induction _ _
      (fun k (rs : Array Nat × Array Nat) => rs.2 = alignmentRow a b k b.length ∧
        (0 < k → rs.1 = alignmentRow a b (k - 1) b.length)) _ ⟨?_, by omega⟩ ?_
    · -- row `0` is `0, 1, …, |b|`
      have hrow₀ : alignment a b 0 = id := funext (alignment_zero_left a b)
      apply Array.toList_inj.1
      simp [alignmentRow, Array.toList_range, hrow₀]
    · rintro k - rs ⟨h₂, h₁⟩
      exact ⟨nextRow_eq a b h₂ h₁, fun _ => h₂⟩
  simp only [List.size_toArray, hinv.1]
  exact alignmentRow_getD a b (Nat.le_refl _)

-- a swap of two adjacent characters counts once
example : editDistance "width".toList "widht".toList = 1 := by decide

section Laws

variable (a b : List Char)

theorem editDistance_comm : editDistance a b = editDistance b a := by
  rw [editDistance_eq_alignment, editDistance_eq_alignment, alignment_comm]

theorem editDistance_eq_zero_iff : editDistance a b = 0 ↔ a = b := by
  rw [editDistance_eq_alignment, alignment_eq_zero_iff]
  constructor
  · rintro ⟨hlen, hpre⟩
    apply List.ext_getElem?
    intro k
    by_cases hk : k < a.length
    · exact hpre k hk
    · rw [List.getElem?_eq_none (by omega), List.getElem?_eq_none (by omega)]
  · rintro rfl
    exact ⟨rfl, fun _ _ => rfl⟩

theorem editDistance_bounds :
    |(a.length : Int) - b.length| ≤ editDistance a b ∧ editDistance a b ≤ max a.length b.length := by
  rw [editDistance_eq_alignment]
  obtain ⟨h₁, h₂⟩ := alignment_ge a b a.length b.length
  exact ⟨abs_sub_le_iff.2 ⟨by omega, by omega⟩, alignment_le_max a b _ _⟩

end Laws

/-- Names that differ after lower-casing are not both empty, so the similarity
divides by a positive length. -/
theorem lowerAll_eq_or_length_pos (x y : String) :
    Text.lowerAll x = Text.lowerAll y ∨ 0 < max (Text.lowerAll x).length (Text.lowerAll y).length := by
  by_cases h : Text.lowerAll x = Text.lowerAll y
  · exact Or.inl h
  · refine Or.inr (Nat.pos_of_ne_zero fun hz => h ?_)
    rw [String.length_eq_zero_iff.1 (by omega : (Text.lowerAll x).length = 0),
      String.length_eq_zero_iff.1 (by omega : (Text.lowerAll y).length = 0)]

/-- The exact similarity lies in `[0, 1]` and is `1` only for names equal up to
case: two names that differ are at distance at least `1` and at most their
larger length. -/
theorem similarityRatio_bounds (x y : String) :
    0 ≤ similarityRatio x y ∧ similarityRatio x y ≤ 1 ∧
      (similarityRatio x y = 1 ↔ Text.lowerAll x = Text.lowerAll y) := by
  unfold similarityRatio
  dsimp only
  split
  next h => simp [h]
  next h =>
    generalize hd : editDistance (Text.lowerAll x).toList (Text.lowerAll y).toList = d
    generalize hL : max (Text.lowerAll x).length (Text.lowerAll y).length = L
    have hpos : 0 < d := Nat.pos_of_ne_zero fun h0 =>
      h (String.toList_inj.1 ((editDistance_eq_zero_iff _ _).1 (hd ▸ h0)))
    have hle : d ≤ L := by
      have := (editDistance_bounds (Text.lowerAll x).toList (Text.lowerAll y).toList).2
      rwa [hd, String.length_toList, String.length_toList, hL] at this
    have hLpos : (0 : Rat) < L := by exact_mod_cast hpos.trans_le hle
    have hq₀ : (0 : Rat) < d / L := div_pos (by exact_mod_cast hpos) hLpos
    have hq₁ : (d : Rat) / L ≤ 1 := div_le_one_of_le₀ (by exact_mod_cast hle) hLpos.le
    refine ⟨by linarith, by linarith, ?_⟩
    simp only [h, iff_false]
    intro h1
    linarith

/-- **The optimal string alignment distance.** The distance of two texts is the
last entry of the table of the recurrence; it is symmetric, `0` exactly for equal
texts, and lies between the difference of their lengths and the larger length.
So the similarity of two names divides by a positive length, and as an exact
rational lies in `[0, 1]`, reaching `1` exactly for names equal up to case. -/
theorem editDistance_laws :
    (∀ a b : List Char, editDistance a b = alignment a b a.length b.length) ∧
    (∀ a b : List Char, editDistance a b = editDistance b a) ∧
    (∀ a b : List Char, editDistance a b = 0 ↔ a = b) ∧
    (∀ a b : List Char, |(a.length : Int) - b.length| ≤ editDistance a b ∧
      editDistance a b ≤ max a.length b.length) ∧
    (∀ x y : String, Text.lowerAll x = Text.lowerAll y ∨
      0 < max (Text.lowerAll x).length (Text.lowerAll y).length) ∧
    (∀ x y : String, 0 ≤ similarityRatio x y ∧ similarityRatio x y ≤ 1 ∧
      (similarityRatio x y = 1 ↔ Text.lowerAll x = Text.lowerAll y)) :=
  ⟨editDistance_eq_alignment, editDistance_comm, editDistance_eq_zero_iff, editDistance_bounds,
    lowerAll_eq_or_length_pos, similarityRatio_bounds⟩

end UiLang.Suggest
