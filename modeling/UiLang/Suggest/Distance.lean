/-!
# Optimal string alignment distance

The distance between two character sequences counts the fewest insertions,
deletions, substitutions and swaps of two adjacent characters that turn one
into the other, where no character is edited twice. It is the last entry of the
table

    d(i, 0) = i,  d(0, j) = j,
    d(i, j) = min (d(i-1, j) + 1) (d(i, j-1) + 1) (d(i-1, j-1) + [aᵢ ≠ bⱼ]),
              and d(i-2, j-2) + 1 when aᵢ = bⱼ₋₁ and aᵢ₋₁ = bⱼ,

which is filled one row at a time.
-/

namespace UiLang.Suggest

/-- Row `i ≥ 1` of the distance table of `a` and `b`, from rows `i - 1` (`prev`)
and `i - 2` (`prev2`). -/
def nextRow (a b : Array Char) (i : Nat) (prev prev2 : Array Nat) : Array Nat :=
  (List.range b.size).foldl (fun row j0 =>
    let j := j0 + 1
    let cost := if a[i - 1]? = b[j - 1]? then 0 else 1
    let best := min (min (prev.getD j 0 + 1) (row.getD (j - 1) 0 + 1)) (prev.getD (j - 1) 0 + cost)
    let swapped := i > 1 ∧ j > 1 ∧ a[i - 1]? = b[j - 2]? ∧ a[i - 2]? = b[j - 1]?
    row.push (if swapped then min best (prev2.getD (j - 2) 0 + 1) else best)) #[i]

/-- The optimal string alignment distance of `a` and `b`. -/
def editDistance (a b : List Char) : Nat :=
  if a.isEmpty then b.length
  else if b.isEmpty then a.length
  else
    let as := a.toArray
    let bs := b.toArray
    let rows := (List.range as.size).foldl
      (fun (rs : Array Nat × Array Nat) i0 => (rs.2, nextRow as bs (i0 + 1) rs.2 rs.1))
      (#[], Array.range (bs.size + 1))
    rows.2.getD bs.size 0

end UiLang.Suggest
