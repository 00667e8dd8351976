import UiLang.Reference.Patterns
import UiLang.Suggest.Closest

/-!
# Searching the reference

A query is lower-cased and matched against each construct: its template
contains the query (the best match), one of its words contains it, its
description contains it, or one of its words is similar to it (score above
`0.6`). Results are ordered from the best match down, constructs that match
equally well in reference order. The empty query finds every construct.

A section is found by its short name or its title, up to case.
-/

namespace UiLang.Reference

/-- Whether `needle` occurs in `hay` as a contiguous part. -/
def occursIn (needle : List Char) : List Char → Bool
  | [] => needle.isEmpty
  | c :: cs => needle.isPrefixOf (c :: cs) || occursIn needle cs

/-- How well a construct matches a lower-case query: `4` by template, `3` by a
word, `2` by description, `1` by a similar word, `0` not at all. -/
def Pattern.score (p : Pattern) (q : String) : Nat :=
  let has (s : String) := occursIn q.toList (Text.lowerAll s).toList
  if has p.template then 4
  else if p.tags.any has then 3
  else if has p.description then 2
  else if p.tags.any (fun t => (Suggest.similarity q t).toRat > Suggest.suggestionThreshold) then 1
  else 0

/-- The constructs matching a query, best first; all of them for `""`. -/
def search (query : String) : List Pattern :=
  if query == "" then patterns
  else
    let q := Text.lowerAll query
    let hits := patterns.filterMap fun p =>
      let s := p.score q
      if s > 0 then some (p, s) else none
    (hits.mergeSort fun a b => a.2 ≥ b.2).map (·.1)

/-- The section named by a short name or a title, up to case. -/
def lookup (name : String) : Option Section :=
  Section.all.find? fun s => Text.foldEq name s.name || Text.foldEq name s.title

end UiLang.Reference
