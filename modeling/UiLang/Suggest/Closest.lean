import UiLang.Suggest.Distance
import UiLang.Number.Binary64
import UiLang.Text.Case

/-!
# Similarity and suggestions

Two names are compared without regard to case: both are lower-cased, equal
names score `1`, and otherwise the score is `1 - d / L`, where `d` is their
edit distance and `L` the length of the longer one. Scores are binary64
values: the quotient `d / L` is rounded, then `1` less that quotient is
rounded again.

The closest candidate to a name is the first one with the highest score, when
that score is above `0` and reaches the threshold. A suggestion names the
closest candidate at threshold `0.6`.
-/

namespace UiLang.Suggest

open Number

/-- The score of two names as an exact rational: `1` for names equal up to
lower case, else `1 - d / L`. -/
def similarityRatio (a b : String) : Rat :=
  let a' := Text.lowerAll a
  let b' := Text.lowerAll b
  if a' = b' then 1
  else 1 - (editDistance a'.toList b'.toList : Rat) / (max a'.length b'.length : Nat)

/-- The score of two names as a binary64 value: `1` for names equal up to lower
case, else `1 - d / L`, with the quotient and the difference each rounded. -/
def similarity (a b : String) : Binary64 :=
  let a' := Text.lowerAll a
  let b' := Text.lowerAll b
  if a' = b' then Binary64.one
  else
    let q := ((Binary64.ofRat ((editDistance a'.toList b'.toList : Rat) /
      (max a'.length b'.length : Nat))).getD Binary64.zero).toRat
    (Binary64.ofRat (1 - q)).getD Binary64.zero

/-- The first candidate with the strictly highest score so far, starting from
`best` with score `bestScore`. -/
def bestOf (target : String) (best : String) (bestScore : Rat) : List String → String × Rat
  | [] => (best, bestScore)
  | c :: cs =>
    let s := (similarity target c).toRat
    if s > bestScore then bestOf target c s cs else bestOf target best bestScore cs

/-- The candidate closest to `target`, or `""` when the best score does not reach
`threshold`. -/
def closest (target : String) (candidates : List String) (threshold : Rat) : String :=
  let (best, score) := bestOf target "" 0 candidates
  if score ≥ threshold then best else ""

/-- The threshold of suggestions: the binary64 value nearest to `0.6`. -/
def suggestionThreshold : Rat :=
  ((Binary64.ofRat (3 / 5)).getD Binary64.zero).toRat

/-- `Did you mean X?` for the closest candidate `X` at the suggestion threshold,
or `""`. -/
def didYouMean (target : String) (candidates : List String) : String :=
  match closest target candidates suggestionThreshold with
  | "" => ""
  | c => "Did you mean " ++ c ++ "?"

end UiLang.Suggest
