import Mathlib.Algebra.Order.Ring.Rat
import UiLang.Suggest.Closest

/-!
# The closest candidate

`bestOf` walks the candidates once and keeps the first one whose score beats
the best so far, starting from the empty name at score `0`. So the walk ends at
the earliest candidate of highest score (`FirstBest`) when that score beats the
start (`bestOf_firstBest`), and keeps the start when nothing does
(`bestOf_of_le`). `closest` applies the threshold only to where the walk ends:
it is the earliest best candidate when that one scores above `0` and reaches the
threshold, and `""` otherwise (`closest_eq_of_firstBest`). A suggestion names the
closest candidate, except that the empty name also stands for "no candidate", so
an empty closest candidate is never suggested (`closest_first_best`,
`emptyCandidate_not_suggested`).
-/

namespace UiLang.Suggest

/-- `c` is the earliest candidate of highest score: every candidate before it
scores less, and none after it scores more. -/
def FirstBest (score : String → Rat) (cs : List String) (c : String) : Prop :=
  ∃ pre post, cs = pre ++ c :: post ∧ (∀ x ∈ pre, score x < score c) ∧
    ∀ x ∈ post, score x ≤ score c

namespace FirstBest

variable {score : String → Rat}

theorem not_nil (c : String) : ¬FirstBest score [] c := by
  rintro ⟨pre, post, h, -, -⟩
  simp at h

/-- The earliest best of `x :: xs` is `x` when nothing after it scores more, and
otherwise the earliest best of `xs`, which then beats `x`. -/
theorem cons_iff {x c : String} {xs : List String} :
    FirstBest score (x :: xs) c ↔
      (c = x ∧ ∀ y ∈ xs, score y ≤ score x) ∨ (score x < score c ∧ FirstBest score xs c) := by
  constructor
  · rintro ⟨_ | ⟨p, pre⟩, post, h, hpre, hpost⟩
    · simp only [List.nil_append, List.cons.injEq] at h
      obtain ⟨rfl, rfl⟩ := h
      exact Or.inl ⟨rfl, hpost⟩
    · simp only [List.cons_append, List.cons.injEq] at h
      obtain ⟨rfl, rfl⟩ := h
      refine Or.inr ⟨hpre x List.mem_cons_self, pre, post, rfl, ?_, hpost⟩
      exact fun y hy => hpre y (List.mem_cons_of_mem x hy)
  · rintro (⟨rfl, hxs⟩ | ⟨hlt, pre, post, rfl, hpre, hpost⟩)
    · exact ⟨[], xs, rfl, by simp, hxs⟩
    · refine ⟨x :: pre, post, rfl, ?_, hpost⟩
      intro y hy
      rcases List.mem_cons.1 hy with rfl | hy
      · exact hlt
      · exact hpre y hy

theorem mem {cs : List String} {c : String} (h : FirstBest score cs c) : c ∈ cs := by
  obtain ⟨pre, post, rfl, -, -⟩ := h
  simp

/-- No candidate scores more than the earliest best. -/
theorem bound {cs : List String} {c y : String} (h : FirstBest score cs c) (hy : y ∈ cs) :
    score y ≤ score c := by
  obtain ⟨pre, post, rfl, hpre, hpost⟩ := h
  rcases List.mem_append.1 hy with hy | hy
  · exact (hpre y hy).le
  · rcases List.mem_cons.1 hy with rfl | hy
    · exact le_rfl
    · exact hpost y hy

/-- Every non-empty list of candidates has an earliest best one. -/
theorem exists_of_ne_nil : ∀ {cs : List String}, cs ≠ [] → ∃ c, FirstBest score cs c
  | [], h => absurd rfl h
  | [x], _ => ⟨x, [], [], rfl, by simp, by simp⟩
  | x :: y :: ys, _ => by
    obtain ⟨c, hc⟩ : ∃ c, FirstBest score (y :: ys) c := exists_of_ne_nil (List.cons_ne_nil y ys)
    by_cases hlt : score x < score c
    · exact ⟨c, cons_iff.2 (Or.inr ⟨hlt, hc⟩)⟩
    · exact ⟨x, cons_iff.2 (Or.inl ⟨rfl, fun z hz => (hc.bound hz).trans (not_lt.1 hlt)⟩)⟩

/-- There is only one earliest best candidate. -/
theorem unique : ∀ {cs : List String} {c c' : String},
    FirstBest score cs c → FirstBest score cs c' → c' = c
  | [], c, _, h, _ => absurd h (not_nil c)
  | x :: xs, c, c', h, h' => by
    rcases cons_iff.1 h with ⟨rfl, hxs⟩ | ⟨hlt, hc⟩ <;>
      rcases cons_iff.1 h' with ⟨rfl, hxs'⟩ | ⟨hlt', hc'⟩
    · rfl
    · exact absurd (hxs c' hc'.mem) (not_le.2 hlt')
    · exact absurd (hxs' c hc.mem) (not_le.2 hlt)
    · exact unique hc hc'

end FirstBest

section Walk

variable (t : String)

/-- When no candidate beats the best so far, the walk keeps it. -/
theorem bestOf_of_le {best : String} {s : Rat} : ∀ {cs : List String},
    (∀ c ∈ cs, (similarity t c).toRat ≤ s) → bestOf t best s cs = (best, s)
  | [], _ => rfl
  | c :: cs, h => by
    have hc : ¬(similarity t c).toRat > s := not_lt.2 (h c List.mem_cons_self)
    simp only [bestOf, if_neg hc]
    exact bestOf_of_le fun y hy => h y (List.mem_cons_of_mem c hy)

/-- **The walk ends at the earliest best candidate** when its score beats the
score the walk starts from. -/
theorem bestOf_firstBest {c : String} : ∀ {cs : List String} {best : String} {s : Rat},
    FirstBest (fun x => (similarity t x).toRat) cs c → s < (similarity t c).toRat →
      bestOf t best s cs = (c, (similarity t c).toRat)
  | [], _, _, h, _ => absurd h (FirstBest.not_nil c)
  | x :: xs, best, s, h, hs => by
    simp only [bestOf]
    rcases FirstBest.cons_iff.1 h with ⟨rfl, hxs⟩ | ⟨hlt, hc⟩
    · -- `c` comes first, and nothing after it beats it
      rw [if_pos hs]
      exact bestOf_of_le t hxs
    · -- `c` comes later and beats whatever the walk holds on the way
      split
      · exact bestOf_firstBest hc hlt
      · exact bestOf_firstBest hc hs

theorem closest_nil (th : Rat) : closest t [] th = "" := by
  simp [closest, bestOf]

/-- The closest candidate is the earliest best one when it scores above `0` and
reaches the threshold, and `""` otherwise: a best score of `0` or less never
moves the walk from the empty name. -/
theorem closest_eq_of_firstBest {cs : List String} {c : String} (th : Rat)
    (hc : FirstBest (fun x => (similarity t x).toRat) cs c) :
    closest t cs th =
      if 0 < (similarity t c).toRat ∧ th ≤ (similarity t c).toRat then c else "" := by
  unfold closest
  by_cases hpos : 0 < (similarity t c).toRat
  · rw [bestOf_firstBest t hc hpos]
    by_cases hth : th ≤ (similarity t c).toRat <;> simp [hpos, hth]
  · have hle : ∀ y ∈ cs, (similarity t y).toRat ≤ 0 := fun y hy =>
      (hc.bound hy).trans (not_lt.1 hpos)
    rw [bestOf_of_le t hle]
    simp [hpos]

example : closest "NavBra" ["HomeButton", "AboutButton", "NavBar", "nb"] suggestionThreshold =
    "NavBar" := by
  decide +kernel

/-- A suggestion names the closest candidate at the suggestion threshold; the
empty name stands for no suggestion. -/
theorem didYouMean_eq (cs : List String) :
    didYouMean t cs =
      if closest t cs suggestionThreshold = "" then ""
      else "Did you mean " ++ closest t cs suggestionThreshold ++ "?" := by
  unfold didYouMean
  split
  next h => rw [if_pos h]
  next h => rw [if_neg h]

end Walk

/-- **The closest candidate is the earliest best one.** With no candidates there
is neither a closest candidate nor a suggestion. Otherwise the candidates have
exactly one earliest best candidate `c`; the closest candidate is `c` when its
score is above `0` and reaches the threshold, else `""`; and the suggestion names
`c` when its score is above `0` and reaches `0.6`, unless `c` is the empty name. -/
theorem closest_first_best (t : String) (cs : List String) (th : Rat) :
    (cs = [] ∧ closest t cs th = "" ∧ didYouMean t cs = "") ∨
    ∃ c, FirstBest (fun x => (similarity t x).toRat) cs c ∧
      (∀ c', FirstBest (fun x => (similarity t x).toRat) cs c' → c' = c) ∧
      closest t cs th =
        (if 0 < (similarity t c).toRat ∧ th ≤ (similarity t c).toRat then c else "") ∧
      didYouMean t cs =
        (if 0 < (similarity t c).toRat ∧ suggestionThreshold ≤ (similarity t c).toRat ∧ c ≠ "" then
          "Did you mean " ++ c ++ "?"
        else "") := by
  rcases eq_or_ne cs [] with rfl | hne
  · exact Or.inl ⟨rfl, closest_nil t th, by rw [didYouMean_eq, closest_nil]; rfl⟩
  obtain ⟨c, hc⟩ := FirstBest.exists_of_ne_nil hne
  refine Or.inr ⟨c, hc, fun c' hc' => hc.unique hc', closest_eq_of_firstBest t th hc, ?_⟩
  rw [didYouMean_eq, closest_eq_of_firstBest t _ hc]
  by_cases hpick : 0 < (similarity t c).toRat ∧ suggestionThreshold ≤ (similarity t c).toRat
  · rw [if_pos hpick]
    by_cases hempty : c = ""
    · rw [if_pos hempty, if_neg fun h => h.2.2 hempty]
    · rw [if_neg hempty, if_pos ⟨hpick.1, hpick.2, hempty⟩]
  · rw [if_neg hpick, if_pos rfl, if_neg fun h => hpick ⟨h.1, h.2.1⟩]

/-- The empty name scores `1` against the empty target and is the earliest best
candidate, yet it is not suggested: the empty name also means "no suggestion". -/
theorem emptyCandidate_not_suggested :
    FirstBest (fun x => (similarity "" x).toRat) [""] "" ∧
      0 < (similarity "" "").toRat ∧ suggestionThreshold ≤ (similarity "" "").toRat ∧
      didYouMean "" [""] ≠ "Did you mean " ++ "" ++ "?" :=
  ⟨⟨[], [], rfl, by simp, by simp⟩, by decide +kernel, by decide +kernel, by decide +kernel⟩

end UiLang.Suggest
