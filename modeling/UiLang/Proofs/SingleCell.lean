import UiLang.Proofs.Generate

/-!
# One state cell per property

Every property `X.y` that the definition section mentions lives in one state
cell of the App. The App declares the view cell first, initialised to the start
view, then one cell per mentioned property in order of first mention, each
initialised with the rendering of the value the section assigns the property.
Every mention of `X.y` reads the cell, every `set(X.y, e)` calls its setter,
and the assignment that gave the cell its value reads the cell instead
(`SingleCellApp`, `generate_hoists_single_cells`).

Two limits come from how hoisting is built. Cells are told apart by name, and
the name `lowerFirst X ++ upperFirst y` can be shared: `Ab.width` and
`ab.width` both give `abWidth`, and `current.view` gives the view cell's own
name. The law is stated for sections whose properties have distinct cell names
that avoid the view cell (`CellNamesApart`). And only the first assignment of
`y` in the first component named `X` is rebound: a later assignment of the same
property keeps its value (`hoisting_rebinds_first_assignment_only`).
-/

namespace UiLang.Jsx

/-- The `useState` declaration of a cell whose initial value renders as `r`. -/
def cellDeclaration (c : Cell) (r : String) : String :=
  "\tconst [" ++ c.name ++ ", " ++ setterName c.name ++ "] = useState(" ++ r ++ ");\n"

/-- What single-cell hoisting promises of the App `out` of program `p`, built
from the cells `cells` and the rebound definition section `d'`. The properties
of the section are its members' pairs, each at its first mention. -/
structure SingleCellApp (p : Program) (out : String) (cells : List Cell) (d' : Definition) :
    Prop where
  /-- The definition section of the App renders `d'` and opens with one
  declaration per cell, in order, each initialised with the rendering of the
  cell's value. -/
  declares : ∃ decls rest tail,
    renderDefinition cells d' = .ok (String.join decls ++ "\n" ++ rest) ∧
    out = appHead ++ (String.join decls ++ "\n" ++ rest) ++ tail ∧
    List.Forall₂ (fun c line => ∃ r, renderValue cells .definition c.initial = .ok r ∧
      line = cellDeclaration c r) cells decls
  /-- The first cell is the view cell, holding the start view. -/
  view_first : cells.head? = some ⟨viewCell, .scalar (.str (Program.startView p))⟩
  /-- The other cells follow the properties in order of first mention: each is
  named after its property and holds the value the section assigns it. -/
  one_per_property : List.Forall₂
    (fun c (xy : String × String) =>
      c.name = cellName xy.1 xy.2 ∧ assignedValue p.definition xy.1 xy.2 = some c.initial)
    cells.tail (p.definition.members.map Member.pair).eraseDups
  /-- No two cells share a read name. -/
  names_nodup : (cells.map Cell.name).Nodup
  /-- Every mention of `X.y` reads its cell. -/
  reads : ∀ m ∈ p.definition.members, renderMember cells m = .ok (cellName m.obj m.prop)
  /-- Every `set(X.y, e)` calls the setter of `X.y`'s cell on the rendering of `e`. -/
  writes : ∀ m ∈ p.definition.members, ∀ (name : String) (e : Arg),
    renderCall cells .definition ⟨.setProperty, name, [.member m, e]⟩ =
      (fun r => setterName (cellName m.obj m.prop) ++ "(" ++ r ++ ");") <$> renderArg cells e
  /-- In the first component named `X`, the first assignment of `y` reads the
  cell of `X.y`. -/
  rebinds : ∀ xy ∈ (p.definition.members.map Member.pair).eraseDups,
    assignedValue d' xy.1 xy.2 = some (cellRef (cellName xy.1 xy.2))

/-- The picked members' cells, read back property by property. -/
theorem forall₂_declaredCell_pairs {d : Definition} :
    ∀ {ms : List Member} {cs : List Cell}, ms.mapM (declaredCell d) = .ok cs →
      List.Forall₂
        (fun c (xy : String × String) => c.name = cellName xy.1 xy.2 ∧ assignedValue d xy.1 xy.2 = some c.initial)
        cs (ms.map Member.pair)
  | [], cs, h => by simp at h; simp [← h]
  | m :: ms, cs, h => by
    rw [List.mapM_cons] at h
    obtain ⟨c, hc, h⟩ := Except.bind_eq_ok.1 h
    obtain ⟨cs', hcs', h⟩ := Except.bind_eq_ok.1 h
    cases h
    exact .cons (declaredCell_eq_ok.1 hc) (forall₂_declaredCell_pairs hcs')

theorem forall₂_cellDeclaration {cells : List Cell} :
    ∀ {cs : List Cell} {decls : List String},
      List.Forall₂ (fun c line => renderCell cells c = .ok line) cs decls →
      List.Forall₂ (fun c line => ∃ r, renderValue cells .definition c.initial = .ok r ∧
        line = cellDeclaration c r) cs decls
  | _, _, .nil => .nil
  | _, _, .cons h hs => .cons (renderCell_eq_ok.1 h) (forall₂_cellDeclaration hs)

/-- **Single-cell hoisting.** When a program's App is generated and the cell
names of its definition section tell its properties apart, the App keeps each
mentioned property in one cell, declared after the view cell in order of first
mention, read by every mention and written by every `set`, and the assignment
that declared it reads it. -/
theorem generate_hoists_single_cells {p : Program} {out : String} (hgen : generate p = .ok out)
    (hapart : CellNamesApart p.definition) :
    ∃ cells d', hoist p.definition (Program.startView p) = .ok (cells, d') ∧
      SingleCellApp p out cells d' := by
  obtain ⟨-, cells, d', defs, pages, hh, hd, -, rfl⟩ := generate_eq_ok.1 hgen
  obtain ⟨cs, hcs, rfl, rfl⟩ := hoist_eq_ok.1 hh
  have hpairs := cellMembers_pairs hapart
  have hcover := hoist_covers hh
  refine ⟨_, _, hh, ⟨?_, rfl, ?_, hoist_names_nodup hh, fun m hm => renderMember_of_mem (hcover m hm),
    fun m hm => renderCall_set_of_mem (hcover m hm), fun xy hxy => ?_⟩⟩
  · obtain ⟨decls, rest, hdecls, rfl⟩ := renderDefinition_cells hd
    exact ⟨decls, rest, _, hd, rfl, forall₂_cellDeclaration hdecls⟩
  · rw [← hpairs]
    exact forall₂_declaredCell_pairs hcs
  · -- the property was picked, so its assignment was rebound
    have hpicked : (xy.1, xy.2) ∈ (cellMembers [viewCell] p.definition.members).map Member.pair := by
      rw [hpairs]
      exact hxy
    rw [assignedValue_foldl_rebindMember, if_pos hpicked]
    obtain ⟨m, hm, hmxy⟩ := List.mem_map.1 hpicked
    obtain ⟨c, hc⟩ := Except.mapM_eq_ok_mem hcs m hm
    simp only [Member.pair, Prod.mk.injEq] at hmxy
    rw [← hmxy.1, ← hmxy.2, (declaredCell_eq_ok.1 hc).2]
    rfl

/-- A picture whose width is read in its own height, and a button that grows
it: one cell, read three times and written once. -/
def growingPicture : Program where
  definition :=
    { components :=
        [{ kind := .picture, name := "A", line := 2, params := [],
           assignments := [⟨"width", .scalar (.num 120), 3⟩,
             ⟨"height", .scalar (.arith (.member ⟨"A", 4, "width"⟩) [(.mul, .num 1)]), 4⟩] },
         { kind := .button, name := "Grow", line := 6, params := [],
           assignments := [⟨"onclick", .call ⟨.setProperty, "set",
             [.member ⟨"A", 7, "width"⟩, .scalar (.arith (.member ⟨"A", 7, "width"⟩) [(.mul, .num 2)])]⟩,
             7⟩] }]
      vars := [] }
  views := [⟨"Main", [.ref "Grow" 1]⟩]
  defaultView := ""

theorem growingPicture_single_cells :
    ∃ out, generate growingPicture = .ok out ∧ CellNamesApart growingPicture.definition ∧
      ∃ cells d', hoist growingPicture.definition (Program.startView growingPicture) = .ok (cells, d') ∧
        SingleCellApp growingPicture out cells d' := by
  obtain ⟨out, hout⟩ : ∃ out, generate growingPicture = .ok out := ⟨_, rfl⟩
  have hapart : CellNamesApart growingPicture.definition := ⟨by decide, by decide⟩
  exact ⟨out, hout, hapart, generate_hoists_single_cells hout hapart⟩

/-- A picture that assigns `width` twice, and a button that sets it. -/
def twiceAssigned : Program where
  definition :=
    { components :=
        [{ kind := .picture, name := "A", line := 1, params := [],
           assignments := [⟨"width", .scalar (.num 1), 2⟩, ⟨"width", .scalar (.num 2), 3⟩] },
         { kind := .button, name := "B", line := 5, params := [],
           assignments := [⟨"onclick", .call ⟨.setProperty, "set",
             [.member ⟨"A", 6, "width"⟩, .scalar (.num 3)]⟩, 6⟩] }]
      vars := [] }
  views := [⟨"Main", [.ref "B" 1]⟩]
  defaultView := ""

/-- **Only the first assignment is rebound.** The App of `twiceAssigned` is
generated and `A.width` gets its cell, yet `A`'s second assignment of `width`
still renders its own value `2` and not the cell. -/
theorem hoisting_rebinds_first_assignment_only :
    (∃ out, generate twiceAssigned = .ok out) ∧
      ∃ cells d', hoist twiceAssigned.definition "Main" = .ok (cells, d') ∧
        ∃ c ∈ d'.components, c.name = "A" ∧ ∃ a ∈ c.assignments, a.prop = "width" ∧
          renderAssignment cells a = .ok "\t\t\t\twidth: 2,\n" := by
  refine ⟨⟨_, rfl⟩, _, _, rfl, _, List.mem_cons_self, rfl, ⟨"width", .scalar (.num 2), 3⟩, ?_, rfl, ?_⟩
  · exact List.mem_cons_of_mem _ List.mem_cons_self
  · decide

end UiLang.Jsx
