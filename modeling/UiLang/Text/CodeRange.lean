/-!
# Code point tables

Character properties are stored as sorted arrays: closed ranges for a class of
characters, and strided runs for a one-to-one mapping. Both are searched by
halving, for the last entry that starts at or below the code point asked for.
-/

namespace UiLang.Text

/-- The last entry of `xs` (sorted by `key`) whose key is at most `c`, found by
halving the index interval `[lo, hi)`; `best` is the answer so far. -/
def lastAtMost {α : Type} (key : α → Nat) (xs : Array α) (c : Nat) : Option α :=
  go 0 xs.size none
where
  /-- Halving step over the index interval `[lo, hi)`. -/
  go (lo hi : Nat) (best : Option α) : Option α :=
    if _ : lo < hi then
      match xs[(lo + hi) / 2]? with
      | some x =>
        if key x ≤ c then go ((lo + hi) / 2 + 1) hi (some x) else go lo ((lo + hi) / 2) best
      | none => best
    else best
  termination_by hi - lo
  decreasing_by all_goals omega

/-- Whether `c` lies in one of the closed ranges `rs`, which are sorted by their
lower end and pairwise disjoint. -/
def inRanges (rs : Array (Nat × Nat)) (c : Nat) : Bool :=
  match lastAtMost Prod.fst rs c with
  | some (_, hi) => c ≤ hi
  | none => false

/-- A run of a case mapping: every code point `lo + k * stride` up to `hi` maps
to itself plus `delta`. -/
structure CaseRun where
  lo : Nat
  hi : Nat
  stride : Nat
  delta : Int

/-- The image of code point `c` under the mapping given by sorted, disjoint
runs; code points outside every run map to themselves. -/
def mapByRuns (runs : Array CaseRun) (c : Nat) : Nat :=
  match lastAtMost CaseRun.lo runs c with
  | some r => if c ≤ r.hi ∧ (c - r.lo) % r.stride = 0 then (c + r.delta).toNat else c
  | none => c

end UiLang.Text
