import UiLang.Reference.Search

/-!
# Ranking of reference search results

A search for a non-empty query rates every construct of the reference against
the lower-cased query (`Pattern.score`: by template, else by a word, else by
description, else by a similar word) and sorts the constructs it matches, best
first, with a stable sort. So the results are the matching constructs, each
once, in order of non-increasing score, and constructs that score alike come in
reference order (`search_ranked`). The empty query lists the reference as it is.

The order comes from the laws of a stable sort by a key (`rank`): it permutes
its input (`rank_perm`), never puts a lower key before a higher one
(`rank_pairwise`), and keeps the elements of one key in their input order
(`filter_rank`).
-/

namespace UiLang.Reference

section Rank

variable {α : Type} (key : α → Nat)

/-- The elements of `l`, highest key first, by a stable sort. -/
def rank (l : List α) : List α :=
  l.mergeSort fun a b => decide (key b ≤ key a)

theorem rank_le_trans (a b c : α) (hab : decide (key b ≤ key a)) (hbc : decide (key c ≤ key b)) :
    decide (key c ≤ key a) := by
  simp only [decide_eq_true_eq] at hab hbc ⊢
  omega

theorem rank_le_total (a b : α) : (decide (key b ≤ key a) || decide (key a ≤ key b)) = true := by
  simp only [Bool.or_eq_true, decide_eq_true_eq]
  omega

theorem rank_perm (l : List α) : (rank key l).Perm l :=
  List.mergeSort_perm _ _

theorem rank_pairwise (l : List α) : (rank key l).Pairwise fun a b => key b ≤ key a :=
  (List.pairwise_mergeSort (rank_le_trans key) (rank_le_total key) l).imp fun h => by simpa using h

/-- **A stable sort keeps the elements of one key in input order.** -/
theorem filter_rank (l : List α) (s : Nat) :
    (rank key l).filter (fun a => key a = s) = l.filter (fun a => key a = s) := by
  -- the elements of key `s` are sorted already, so they stay a sublist of the sorted list
  have hsorted : (l.filter fun a => key a = s).Pairwise fun a b => decide (key b ≤ key a) := by
    refine List.Pairwise.imp_of_mem (fun ha hb _ => ?_) (List.pairwise_of_forall fun _ _ => trivial)
    simp only [List.mem_filter, decide_eq_true_eq] at ha hb
    simp [ha.2, hb.2]
  have hsub : List.Sublist (l.filter fun a => key a = s) ((rank key l).filter (fun a => key a = s)) := by
    have h := (List.sublist_mergeSort (rank_le_trans key) (rank_le_total key) hsorted
      (List.filter_sublist (p := fun a => decide (key a = s)))).filter (fun a => decide (key a = s))
    rwa [List.filter_filter, List.filter_congr (fun a _ => Bool.and_self _)] at h
  exact (hsub.eq_of_length ((rank_perm key l).filter _).length_eq.symm).symm

end Rank

/-- No construct stands twice in the reference. -/
theorem patterns_nodup : patterns.Nodup := by
  decide

/-- **What a construct matches.** A construct scores above `0` exactly when its
template, one of its words or its description contains the query, or one of
its words is similar to it. -/
theorem Pattern.score_pos_iff (p : Pattern) (q : String) :
    0 < p.score q ↔
      occursIn q.toList (Text.lowerAll p.template).toList ∨
        (∃ t ∈ p.tags, occursIn q.toList (Text.lowerAll t).toList) ∨
        occursIn q.toList (Text.lowerAll p.description).toList ∨
        ∃ t ∈ p.tags, (Suggest.similarity q t).toRat > Suggest.suggestionThreshold := by
  unfold Pattern.score
  dsimp only
  -- one case for each rung of the cascade
  split
  · simp_all
  split
  · simp_all [List.any_eq_true]
  split
  · simp_all
  split
  · simp_all [List.any_eq_true]
  · simp_all [List.any_eq_true]

/-- A non-empty query ranks the constructs that match it by their score. -/
theorem search_eq_rank {query : String} (h : query ≠ "") :
    search query =
      rank (·.score (Text.lowerAll query))
        (patterns.filter fun p => 0 < p.score (Text.lowerAll query)) := by
  have hq : (query == "") = false := by simpa using h
  simp only [search, hq, Bool.false_eq_true, if_false]
  -- nothing below looks into the reference or the query
  generalize Text.lowerAll query = q
  generalize patterns = ps
  -- the hits pair each matching construct with its score
  have hhits : (ps.filterMap fun p => if p.score q > 0 then some (p, p.score q) else none) =
      (ps.filter fun p => 0 < p.score q).map fun p => (p, p.score q) := by
    rw [← List.filterMap_eq_map', List.filterMap_filter]
    refine congrArg (List.filterMap · ps) (funext fun p => ?_)
    by_cases hp : 0 < p.score q <;> simp [hp]
  rw [hhits, List.map_mergeSort (s := fun a b => decide (b.score q ≤ a.score q)), List.map_map]
  · simp [rank, Function.comp_def]
  · intro a ha b hb
    obtain ⟨a, -, rfl⟩ := List.mem_map.1 ha
    obtain ⟨b, -, rfl⟩ := List.mem_map.1 hb
    simp only [ge_iff_le]

/-- **Search returns the matching constructs ranked by score.** The empty query
lists the whole reference in order. A non-empty query lists every construct that
matches its lower-cased form, each once and no other, with scores never rising,
and constructs of one score in reference order. -/
theorem search_ranked :
    search "" = patterns ∧
      ∀ query, query ≠ "" →
        (search query).Nodup ∧
        (∀ p, p ∈ search query ↔ p ∈ patterns ∧
          (occursIn (Text.lowerAll query).toList (Text.lowerAll p.template).toList ∨
            (∃ t ∈ p.tags, occursIn (Text.lowerAll query).toList (Text.lowerAll t).toList) ∨
            occursIn (Text.lowerAll query).toList (Text.lowerAll p.description).toList ∨
            ∃ t ∈ p.tags,
              (Suggest.similarity (Text.lowerAll query) t).toRat > Suggest.suggestionThreshold)) ∧
        (search query).Pairwise (fun a b => b.score (Text.lowerAll query) ≤ a.score (Text.lowerAll query)) ∧
        ∀ s, 0 < s → (search query).filter (fun p => p.score (Text.lowerAll query) = s) =
          patterns.filter (fun p => p.score (Text.lowerAll query) = s) := by
  refine ⟨by simp [search], fun query h => ?_⟩
  rw [search_eq_rank h]
  generalize Text.lowerAll query = q
  have hperm := rank_perm (·.score q) (patterns.filter fun p => 0 < p.score q)
  refine ⟨hperm.nodup_iff.2 (patterns_nodup.filter _), fun p => ?_, rank_pairwise _ _, fun s hs => ?_⟩
  · rw [hperm.mem_iff, List.mem_filter, decide_eq_true_eq, Pattern.score_pos_iff]
  · -- a construct of a positive score is a match
    rw [filter_rank, List.filter_filter]
    refine List.filter_congr fun p _ => ?_
    by_cases hp : p.score q = s
    · simp [hp, hs]
    · simp [hp]

theorem colorQuery_ranked :
    "Color" ≠ "" ∧ (search "Color").Pairwise
      (fun a b => b.score (Text.lowerAll "Color") ≤ a.score (Text.lowerAll "Color")) :=
  ⟨by decide, (search_ranked.2 "Color" (by decide)).2.2.1⟩

end UiLang.Reference
