import UiLang.Proofs.Except
import Mathlib.Data.List.Nodup

/-!
# Hoisting, read as a whole

`hoist` walks the members `X.y` of a definition section in reading order and
gives each a state cell, unless a cell of that name already exists. Read as a
whole the walk is two steps (`hoist_eq`). First it picks the members whose cell
name is new: the view cell's name counts as taken from the start
(`cellMembers`). Then it looks up the value each picked member's property is
assigned (`declaredCell`), failing at the first that has none, and rebinds that
assignment to the cell (`rebindMember`).

Everything else follows from that reading. The cells are the view cell and one
cell per picked member, with pairwise distinct names (`hoist_names_nodup`);
every member of the section finds a cell of its name (`hoist_covers`); and
hoisting fails exactly at the first picked member whose property has no
assignment (`hoist_eq_error_iff`). Picking goes by name, not by property, so
two properties whose cell names coincide share one cell. Where cell names tell
the section's properties apart and avoid the view cell (`CellNamesApart`), the
picked members are the distinct properties in order of first mention
(`cellMembers_pairs`).
-/

namespace UiLang

/-- The read name of the cell that backs a member. -/
def Member.cell (m : Member) : String := cellName m.obj m.prop

/-- The property a member names: its component and the property's name. -/
def Member.pair (m : Member) : String × String := (m.obj, m.prop)

namespace Jsx

/-- The members that get a cell, in order: each member whose cell name is
neither in `seen` nor the cell name of an earlier member. -/
def cellMembers (seen : List String) : List Member → List Member
  | [] => []
  | m :: ms =>
    if m.cell ∈ seen then cellMembers seen ms else m :: cellMembers (seen ++ [m.cell]) ms

/-- The cell of a member, holding the value its property is assigned; a
property with no assignment is the failure that names it. -/
def declaredCell (d : Definition) (m : Member) : Except GenError Cell :=
  match assignedValue d m.obj m.prop with
  | none => .error (.missingProperty (memberRef m.obj m.prop))
  | some v => .ok ⟨m.cell, v⟩

/-- The definition with the assignment of a member's property reading its cell. -/
def rebindMember (d : Definition) (m : Member) : Definition :=
  { d with components := rebindIn m.obj m.prop m.cell d.components }

/-- Adds a member's cell and rebinds its assignment, with no look at the names
taken so far. -/
def addCell (d : Definition) (acc : List Cell × Definition) (m : Member) :
    Except GenError (List Cell × Definition) :=
  (fun c => (acc.1 ++ [c], rebindMember acc.2 m)) <$> declaredCell d m

theorem findCell_isSome {cells : List Cell} {n : String} :
    (findCell cells n).isSome ↔ n ∈ cells.map Cell.name := by
  simp [findCell, List.find?_isSome]

theorem findCell_name {cells : List Cell} {n : String} {c : Cell} (h : findCell cells n = some c) :
    c.name = n := by
  simpa using List.find?_some h

theorem declaredCell_eq_ok {d : Definition} {m : Member} {c : Cell} :
    declaredCell d m = .ok c ↔ c.name = m.cell ∧ assignedValue d m.obj m.prop = some c.initial := by
  unfold declaredCell
  split <;> rename_i h <;> simp only [h, reduceCtorEq, false_iff, Except.ok.injEq, Option.some.injEq]
  · simp
  · constructor
    · rintro rfl
      exact ⟨rfl, rfl⟩
    · rintro ⟨h₁, rfl⟩
      cases c
      simp_all

theorem declaredCell_isOk (d : Definition) (m : Member) :
    (declaredCell d m).isOk = (assignedValue d m.obj m.prop).isSome := by
  unfold declaredCell
  split <;> rename_i h <;> simp [h, Except.isOk, Except.toBool]

/-- **One step of hoisting.** A member whose cell name is taken changes
nothing; any other adds its cell. -/
theorem hoistMember_eq (d : Definition) (acc : List Cell × Definition) (m : Member) :
    hoistMember d acc m = if m.cell ∈ acc.1.map Cell.name then .ok acc else addCell d acc m := by
  unfold hoistMember addCell
  by_cases h : m.cell ∈ acc.1.map Cell.name
  · have h' : (findCell acc.1 (cellName m.obj m.prop)).isSome := findCell_isSome.2 h
    simp only [h', if_true, h]
  · have h' : ¬ (findCell acc.1 (cellName m.obj m.prop)).isSome := mt findCell_isSome.1 h
    simp only [h', h, if_false, Bool.false_eq_true]
    unfold declaredCell
    cases assignedValue d m.obj m.prop <;> rfl

/-- **The walk skips exactly the members whose cell name is taken.** -/
theorem foldlM_hoistMember (d : Definition) :
    ∀ (ms : List Member) (acc : List Cell × Definition),
      ms.foldlM (hoistMember d) acc = (cellMembers (acc.1.map Cell.name) ms).foldlM (addCell d) acc
  | [], _ => rfl
  | m :: ms, acc => by
    rw [List.foldlM_cons, hoistMember_eq]
    by_cases h : m.cell ∈ acc.1.map Cell.name
    · rw [if_pos h, cellMembers, if_pos h, Except.ok_bind, foldlM_hoistMember]
    · rw [if_neg h, cellMembers, if_neg h, List.foldlM_cons]
      cases hc : declaredCell d m with
      | error e => simp [addCell, hc]
      | ok c =>
        have hname : c.name = m.cell := (declaredCell_eq_ok.1 hc).1
        simp [addCell, hc, Except.ok_bind, foldlM_hoistMember, hname]

/-- **Adding cells without looking** collects the picked members' cells in
order and rebinds their assignments. -/
theorem foldlM_addCell (d : Definition) :
    ∀ (ms : List Member) (cells : List Cell) (d₀ : Definition),
      ms.foldlM (addCell d) (cells, d₀) =
        (fun cs => (cells ++ cs, ms.foldl rebindMember d₀)) <$> ms.mapM (declaredCell d)
  | [], cells, d₀ => by simp [Functor.map, Except.map]
  | m :: ms, cells, d₀ => by
    rw [List.foldlM_cons, List.mapM_cons]
    cases hc : declaredCell d m with
    | error e => simp [addCell, hc, Functor.map, Except.map]
    | ok c =>
      simp only [addCell, hc, Except.ok_bind]
      rw [show (fun c => (cells ++ [c], rebindMember d₀ m)) <$> (Except.ok c : Except GenError Cell) =
        .ok (cells ++ [c], rebindMember d₀ m) from rfl, Except.ok_bind, foldlM_addCell]
      cases ms.mapM (declaredCell d) <;> simp [Functor.map, Except.map]

/-- **Hoisting is picking, then looking up.** The cells are the view cell and
the declared cells of the members picked by name, and the definition comes back
with those members' assignments rebound. -/
theorem hoist_eq (d : Definition) (view : String) :
    hoist d view =
      (fun cs => (⟨viewCell, .scalar (.str view)⟩ :: cs,
          (cellMembers [viewCell] d.members).foldl rebindMember d)) <$>
        (cellMembers [viewCell] d.members).mapM (declaredCell d) := by
  rw [hoist, foldlM_hoistMember, foldlM_addCell]
  rfl

/-! ### Which members are picked -/

/-- **Picked names are new:** no two picked members share a cell name, and none
is in `seen`. -/
theorem cellMembers_fresh : ∀ (seen : List String) (ms : List Member),
    ((cellMembers seen ms).map Member.cell).Nodup ∧ ∀ m ∈ cellMembers seen ms, m.cell ∉ seen
  | _, [] => by simp [cellMembers]
  | seen, m :: ms => by
    unfold cellMembers
    split
    · exact cellMembers_fresh seen ms
    · rename_i hm
      obtain ⟨hnd, hnew⟩ := cellMembers_fresh (seen ++ [m.cell]) ms
      refine ⟨List.nodup_cons.2 ⟨fun h => ?_, hnd⟩, fun m' hm' => ?_⟩
      · obtain ⟨m', hm', he⟩ := List.mem_map.1 h
        exact hnew m' hm' (by simp [he])
      · rcases List.mem_cons.1 hm' with rfl | hm'
        · exact hm
        · exact fun hs => hnew m' hm' (List.mem_append_left _ hs)

/-- **Every member's name is taken or picked.** -/
theorem cellMembers_covers : ∀ (seen : List String) (ms : List Member), ∀ m ∈ ms,
    m.cell ∈ seen ∨ m.cell ∈ (cellMembers seen ms).map Member.cell
  | _, [], _, hm => absurd hm List.not_mem_nil
  | seen, m :: ms, m', hm' => by
    unfold cellMembers
    split
    · rename_i hm
      rcases List.mem_cons.1 hm' with rfl | hm'
      · exact .inl hm
      · exact cellMembers_covers seen ms m' hm'
    · rcases List.mem_cons.1 hm' with rfl | hm'
      · exact .inr List.mem_cons_self
      · rcases cellMembers_covers (seen ++ [m.cell]) ms m' hm' with h | h
        · rcases List.mem_append.1 h with h | h
          · exact .inl h
          · exact .inr (List.mem_cons.2 (.inl (List.mem_singleton.1 h)))
        · exact .inr (List.mem_cons_of_mem _ h)

/-- The cell names of a definition's members tell its properties apart and
avoid the view cell. -/
structure CellNamesApart (d : Definition) : Prop where
  /-- Two members with one cell name name one property. -/
  injective : ∀ m ∈ d.members, ∀ m' ∈ d.members, m.cell = m'.cell → m.pair = m'.pair
  /-- No member's cell is the view cell. -/
  not_view : ∀ m ∈ d.members, m.cell ≠ viewCell

theorem Member.cell_eq_of_pair {m m' : Member} (h : m.pair = m'.pair) : m.cell = m'.cell := by
  simp only [Member.pair, Prod.mk.injEq] at h
  simp [Member.cell, h.1, h.2]

/-- Picking by name is picking by property, while names and properties agree on
which are taken. -/
theorem cellMembers_pairs_of_agree : ∀ (ms : List Member) (seen : List String)
    (taken : List (String × String)),
    (∀ m ∈ ms, m.cell ∈ seen ↔ m.pair ∈ taken) →
    (∀ m ∈ ms, ∀ m' ∈ ms, m.cell = m'.cell → m.pair = m'.pair) →
    (cellMembers seen ms).map Member.pair = ((ms.map Member.pair).filter (· ∉ taken)).eraseDups
  | [], _, _, _, _ => rfl
  | m :: ms, seen, taken, hagree, hinj => by
    have hinj' : ∀ m ∈ ms, ∀ m' ∈ ms, m.cell = m'.cell → m.pair = m'.pair :=
      fun a ha b hb => hinj a (List.mem_cons_of_mem _ ha) b (List.mem_cons_of_mem _ hb)
    unfold cellMembers
    split
    · rename_i hm
      have hp : m.pair ∈ taken := (hagree m List.mem_cons_self).1 hm
      rw [cellMembers_pairs_of_agree ms seen taken
        (fun a ha => hagree a (List.mem_cons_of_mem _ ha)) hinj']
      simp [hp]
    · rename_i hm
      have hp : m.pair ∉ taken := mt (hagree m List.mem_cons_self).2 hm
      -- the new name and the new property are taken together
      have hagree' : ∀ a ∈ ms, a.cell ∈ seen ++ [m.cell] ↔ a.pair ∈ taken ++ [m.pair] := by
        intro a ha
        have hsame : a.cell = m.cell ↔ a.pair = m.pair :=
          ⟨hinj a (List.mem_cons_of_mem _ ha) m List.mem_cons_self, Member.cell_eq_of_pair⟩
        simp only [List.mem_append, List.mem_singleton, hsame,
          hagree a (List.mem_cons_of_mem _ ha)]
      rw [List.map_cons, cellMembers_pairs_of_agree ms _ _ hagree' hinj', List.map_cons,
        List.filter_cons_of_pos (by simpa using hp), List.eraseDups_cons, List.filter_filter]
      congr 2
      apply List.filter_congr
      intro b _
      by_cases hb : b = m.pair <;> simp [hb]

/-- **Where names tell properties apart, the cells follow the properties:** the
picked members name the section's distinct properties, in order of first
mention. -/
theorem cellMembers_pairs {d : Definition} (h : CellNamesApart d) :
    (cellMembers [viewCell] d.members).map Member.pair = (d.members.map Member.pair).eraseDups := by
  have := cellMembers_pairs_of_agree d.members [viewCell] []
    (fun m hm => by simp [h.not_view m hm]) h.injective
  simpa using this

/-- Keeping only first occurrences leaves the first element of a kind where it is. -/
theorem find?_eraseDups {α : Type} [BEq α] [LawfulBEq α] (p : α → Bool) :
    ∀ l : List α, l.eraseDups.find? p = l.find? p
  | [] => rfl
  | a :: l => by
    rw [List.eraseDups_cons, List.find?_cons, List.find?_cons]
    cases hpa : p a
    · simp only
      rw [find?_eraseDups p (l.filter fun b => !b == a), List.find?_filter]
      congr 1
      funext b
      by_cases hb : b = a <;> simp_all
    · rfl
termination_by l => l.length
decreasing_by exact Nat.lt_succ_of_le (List.length_filter_le _ l)

/-! ### What hoisting returns -/

theorem mapM_declaredCell_names {d : Definition} :
    ∀ {ms : List Member} {cs : List Cell}, ms.mapM (declaredCell d) = .ok cs →
      cs.map Cell.name = ms.map Member.cell
  | [], cs, h => by simp at h; simp [← h]
  | m :: ms, cs, h => by
    rw [List.mapM_cons] at h
    obtain ⟨c, hc, h⟩ := Except.bind_eq_ok.1 h
    obtain ⟨cs', hcs', h⟩ := Except.bind_eq_ok.1 h
    cases h
    simp [(declaredCell_eq_ok.1 hc).1, mapM_declaredCell_names hcs']

/-- **Hoisting succeeds** exactly when every picked member's property is
assigned; the cells are then the view cell followed by the picked members'
cells. -/
theorem hoist_eq_ok {d : Definition} {view : String} {cells : List Cell} {d' : Definition} :
    hoist d view = .ok (cells, d') ↔
      ∃ cs, (cellMembers [viewCell] d.members).mapM (declaredCell d) = .ok cs ∧
        cells = ⟨viewCell, .scalar (.str view)⟩ :: cs ∧
        d' = (cellMembers [viewCell] d.members).foldl rebindMember d := by
  rw [hoist_eq, Except.map_eq_ok]
  constructor
  · rintro ⟨cs, hcs, h⟩
    simp only [Prod.mk.injEq] at h
    exact ⟨cs, hcs, h.1.symm, h.2.symm⟩
  · rintro ⟨cs, hcs, rfl, rfl⟩
    exact ⟨cs, hcs, rfl⟩

/-- **Hoisting fails at the first picked member whose property has no
assignment,** and names that property. -/
theorem hoist_eq_error_iff {d : Definition} {view : String} {e : GenError} :
    hoist d view = .error e ↔
      ∃ m, (cellMembers [viewCell] d.members).find? (fun m => (assignedValue d m.obj m.prop).isNone) =
          some m ∧ e = .missingProperty (memberRef m.obj m.prop) := by
  rw [hoist_eq, Except.map_eq_error, Except.mapM_eq_error_iff]
  simp only [declaredCell_isOk, Option.not_isSome]
  constructor
  · rintro ⟨m, hm, he⟩
    refine ⟨m, hm, ?_⟩
    unfold declaredCell at he
    split at he <;> simp_all
  · rintro ⟨m, hm, rfl⟩
    refine ⟨m, hm, ?_⟩
    have hnone : assignedValue d m.obj m.prop = none := by simpa using List.find?_some hm
    simp [declaredCell, hnone]

/-- **The cells' names are pairwise distinct,** the view cell's among them. -/
theorem hoist_names_nodup {d : Definition} {view : String} {cells : List Cell} {d' : Definition}
    (h : hoist d view = .ok (cells, d')) : (cells.map Cell.name).Nodup := by
  obtain ⟨cs, hcs, rfl, -⟩ := hoist_eq_ok.1 h
  obtain ⟨hnd, hnew⟩ := cellMembers_fresh [viewCell] d.members
  rw [List.map_cons, mapM_declaredCell_names hcs]
  refine List.nodup_cons.2 ⟨fun hv => ?_, hnd⟩
  obtain ⟨m, hm, he⟩ := List.mem_map.1 hv
  exact hnew m hm (by simp [he])

/-- **Every member of the section finds a cell of its name.** -/
theorem hoist_covers {d : Definition} {view : String} {cells : List Cell} {d' : Definition}
    (h : hoist d view = .ok (cells, d')) : ∀ m ∈ d.members, m.cell ∈ cells.map Cell.name := by
  obtain ⟨cs, hcs, rfl, -⟩ := hoist_eq_ok.1 h
  intro m hm
  rw [List.map_cons, mapM_declaredCell_names hcs]
  rcases cellMembers_covers [viewCell] d.members m hm with h | h
  · exact List.mem_cons.2 (.inl (List.mem_singleton.1 h))
  · exact List.mem_cons_of_mem _ h

/-! ### What rebinding changes -/

/-- A reference to cell `n`, as a rebound assignment holds it. -/
abbrev cellRef (n : String) : Value := .scalar (.var n 0)

theorem find?_rebindFirst (prop cell y : String) : ∀ as : List Assignment,
    (rebindFirst prop cell as).find? (·.prop == y) =
      if prop = y then (as.find? (·.prop == y)).map fun a => { a with value := cellRef cell }
      else as.find? (·.prop == y)
  | [] => by simp [rebindFirst]
  | a :: as => by
    by_cases ha : a.prop = prop
    · have hr : rebindFirst prop cell (a :: as) = { a with value := cellRef cell } :: as := by
        simp [rebindFirst, ha]
      rw [hr]
      by_cases hy : prop = y <;> simp [ha, hy]
    · have hr : rebindFirst prop cell (a :: as) = a :: rebindFirst prop cell as := by
        simp [rebindFirst, ha]
      rw [hr, List.find?_cons, List.find?_cons, find?_rebindFirst prop cell y as]
      by_cases hay : a.prop = y
      · have hy : prop ≠ y := fun h => ha (hay.trans h.symm)
        simp [hay, hy]
      · have hb : (a.prop == y) = false := by simpa using hay
        by_cases hy : prop = y <;> simp [hb, hy]

theorem find?_rebindIn (comp prop cell x : String) : ∀ cs : List Component,
    (rebindIn comp prop cell cs).find? (·.name == x) =
      if comp = x then
        (cs.find? (·.name == x)).map fun c => { c with assignments := rebindFirst prop cell c.assignments }
      else cs.find? (·.name == x)
  | [] => by simp [rebindIn]
  | c :: cs => by
    by_cases hc : c.name = comp
    · have hr : rebindIn comp prop cell (c :: cs) =
          { c with assignments := rebindFirst prop cell c.assignments } :: cs := by
        simp [rebindIn, hc]
      rw [hr]
      by_cases hx : comp = x <;> simp [hc, hx]
    · have hr : rebindIn comp prop cell (c :: cs) = c :: rebindIn comp prop cell cs := by
        simp [rebindIn, hc]
      rw [hr, List.find?_cons, List.find?_cons, find?_rebindIn comp prop cell x cs]
      by_cases hcx : c.name = x
      · have hx : comp ≠ x := fun h => hc (hcx.trans h.symm)
        simp [hcx, hx]
      · have hb : (c.name == x) = false := by simpa using hcx
        by_cases hx : comp = x <;> simp [hb, hx]

theorem assignedValue_eq_bind (d : Definition) (comp prop : String) :
    assignedValue d comp prop =
      (d.components.find? (·.name == comp)).bind fun c =>
        (c.assignments.find? (·.prop == prop)).map (·.value) := by
  unfold assignedValue
  cases d.components.find? (·.name == comp) <;> rfl

/-- **Rebinding a member changes the value of its own property only,** and only
where that property is assigned. -/
theorem assignedValue_rebindMember (d : Definition) (m : Member) (x y : String) :
    assignedValue (rebindMember d m) x y =
      if m.pair = (x, y) then (assignedValue d x y).map fun _ => cellRef m.cell
      else assignedValue d x y := by
  rw [assignedValue_eq_bind, assignedValue_eq_bind, rebindMember]
  dsimp only
  rw [find?_rebindIn]
  by_cases hx : m.obj = x
  · rw [if_pos hx]
    cases d.components.find? (·.name == x) with
    | none => simp
    | some c =>
      simp only [Option.map_some, Option.bind_some]
      rw [find?_rebindFirst]
      by_cases hy : m.prop = y <;> simp [Member.pair, hx, hy, Option.map_map, Function.comp_def]
  · rw [if_neg hx]
    simp [Member.pair, hx]

/-- **After rebinding members, each of their properties reads its cell** where
it is assigned; every other property keeps its value. -/
theorem assignedValue_foldl_rebindMember (x y : String) : ∀ (ms : List Member) (d : Definition),
    assignedValue (ms.foldl rebindMember d) x y =
      if (x, y) ∈ ms.map Member.pair then (assignedValue d x y).map fun _ => cellRef (cellName x y)
      else assignedValue d x y
  | [], d => by simp
  | m :: ms, d => by
    rw [List.foldl_cons, assignedValue_foldl_rebindMember x y ms, assignedValue_rebindMember]
    have hcell : m.pair = (x, y) → m.cell = cellName x y := by
      intro h
      simp only [Member.pair, Prod.mk.injEq] at h
      simp [Member.cell, h.1, h.2]
    by_cases hm : m.pair = (x, y)
    · by_cases hms : (x, y) ∈ ms.map Member.pair <;> simp [hm, hms, hcell hm, Option.map_map, Function.comp_def]
    · have hne : (x, y) ≠ m.pair := fun h => hm h.symm
      simp [hm, hne]

theorem rebindIn_names (comp prop cell : String) : ∀ cs : List Component,
    (rebindIn comp prop cell cs).map Component.name = cs.map Component.name
  | [] => rfl
  | c :: cs => by
    unfold rebindIn
    split
    · rfl
    · simp [rebindIn_names comp prop cell cs]

/-- **Rebinding keeps every component's name and every variable.** -/
theorem foldl_rebindMember_frame : ∀ (ms : List Member) (d : Definition),
    (ms.foldl rebindMember d).components.map Component.name = d.components.map Component.name ∧
      (ms.foldl rebindMember d).vars = d.vars
  | [], _ => ⟨rfl, rfl⟩
  | m :: ms, d => by
    obtain ⟨h₁, h₂⟩ := foldl_rebindMember_frame ms (rebindMember d m)
    exact ⟨h₁.trans (rebindIn_names _ _ _ _), h₂⟩

theorem mem_rebindFirst {prop cell : String} {a : Assignment} :
    ∀ {as : List Assignment}, a ∈ rebindFirst prop cell as → a ∈ as ∨ a.value = cellRef cell
  | [], h => absurd h List.not_mem_nil
  | b :: as, h => by
    unfold rebindFirst at h
    split at h
    · rcases List.mem_cons.1 h with rfl | h
      · exact .inr rfl
      · exact .inl (List.mem_cons_of_mem _ h)
    · rcases List.mem_cons.1 h with rfl | h
      · exact .inl List.mem_cons_self
      · exact (mem_rebindFirst h).imp_left (List.mem_cons_of_mem _)

theorem mem_rebindIn {comp prop cell : String} {c' : Component} {a : Assignment} :
    ∀ {cs : List Component}, c' ∈ rebindIn comp prop cell cs → a ∈ c'.assignments →
      (∃ c ∈ cs, a ∈ c.assignments) ∨ a.value = cellRef cell
  | [], h, _ => absurd h List.not_mem_nil
  | c :: cs, h, ha => by
    unfold rebindIn at h
    split at h
    · rcases List.mem_cons.1 h with rfl | h
      · exact (mem_rebindFirst ha).imp_left fun ha => ⟨c, List.mem_cons_self, ha⟩
      · exact .inl ⟨c', List.mem_cons_of_mem _ h, ha⟩
    · rcases List.mem_cons.1 h with rfl | h
      · exact .inl ⟨c', List.mem_cons_self, ha⟩
      · exact (mem_rebindIn h ha).imp_left fun ⟨c₀, hc₀, ha₀⟩ =>
          ⟨c₀, List.mem_cons_of_mem _ hc₀, ha₀⟩

/-- **Rebinding brings in nothing but cell references:** every assignment of a
rebound component was an assignment of the section, or reads a cell. -/
theorem mem_foldl_rebindMember {a : Assignment} : ∀ (ms : List Member) (d : Definition),
    ∀ c' ∈ (ms.foldl rebindMember d).components, a ∈ c'.assignments →
      (∃ c ∈ d.components, a ∈ c.assignments) ∨ ∃ n, a.value = cellRef n
  | [], _, c', hc', ha => .inl ⟨c', hc', ha⟩
  | m :: ms, d, c', hc', ha => by
    rcases mem_foldl_rebindMember ms (rebindMember d m) c' hc' ha with ⟨c, hc, ha⟩ | h
    · exact (mem_rebindIn hc ha).imp_right fun h => ⟨_, h⟩
    · exact .inr h

/-- A value the section assigns is the value of one of its assignments. -/
theorem exists_of_assignedValue {d : Definition} {x y : String} {v : Value}
    (h : assignedValue d x y = some v) : ∃ c ∈ d.components, ∃ a ∈ c.assignments, a.value = v := by
  rw [assignedValue_eq_bind, Option.bind_eq_some_iff] at h
  obtain ⟨c, hc, h⟩ := h
  obtain ⟨a, ha, rfl⟩ := Option.map_eq_some_iff.1 h
  exact ⟨c, List.mem_of_find?_eq_some hc, a, List.mem_of_find?_eq_some ha, rfl⟩

end Jsx

/-- What a collector of values gathers from a definition section: from each
assignment's value, then from each variable's arguments. -/
def Definition.collect {X : Type} (part : Value → List X) (d : Definition) : List X :=
  d.components.flatMap (fun c => c.assignments.flatMap (part ·.value)) ++
    d.vars.flatMap (fun v => v.inst.args.flatMap (part ·.2))

namespace Jsx

variable {X : Type} (part : Value → List X)

/-- Rebinding gathers nothing new for a collector that finds nothing in a cell
reference. -/
theorem collect_foldl_rebindMember (hcell : ∀ n, part (cellRef n) = []) (ms : List Member)
    (d : Definition) : ∀ x ∈ (ms.foldl rebindMember d).collect part, x ∈ d.collect part := by
  intro x hx
  rcases List.mem_append.1 hx with hx | hx
  · obtain ⟨comp', hcomp', hx⟩ := List.mem_flatMap.1 hx
    obtain ⟨a, ha, hx⟩ := List.mem_flatMap.1 hx
    rcases mem_foldl_rebindMember ms d comp' hcomp' ha with ⟨comp, hcomp, ha⟩ | ⟨n, hn⟩
    · exact List.mem_append_left _ (List.mem_flatMap.2 ⟨comp, hcomp, List.mem_flatMap.2 ⟨a, ha, hx⟩⟩)
    · rw [hn, hcell] at hx
      cases hx
  · rw [(foldl_rebindMember_frame ms d).2] at hx
    exact List.mem_append_right _ hx

/-- **Hoisting gathers nothing new** for a collector that finds nothing in a
cell reference or in the start view's value: the cells' values and the rebound
section hold only what the section held. -/
theorem hoist_collect_subset (hcell : ∀ n, part (cellRef n) = [])
    (hview : ∀ v, part (.scalar (.str v)) = []) {d : Definition} {view : String} {cells : List Cell}
    {d' : Definition} (h : hoist d view = .ok (cells, d')) :
    ∀ x ∈ cells.flatMap (part ·.initial) ++ d'.collect part, x ∈ d.collect part := by
  obtain ⟨cs, hcs, rfl, rfl⟩ := hoist_eq_ok.1 h
  intro x hx
  rcases List.mem_append.1 hx with hx | hx
  · -- a cell holds the start view or a value the section assigns
    obtain ⟨cell, hcell', hx⟩ := List.mem_flatMap.1 hx
    rcases List.mem_cons.1 hcell' with rfl | hcell'
    · rw [hview] at hx
      cases hx
    · obtain ⟨m, -, hm⟩ := Except.mapM_eq_ok_mem_right hcs cell hcell'
      obtain ⟨comp, hcomp, a, ha, hv⟩ := exists_of_assignedValue (declaredCell_eq_ok.1 hm).2
      exact List.mem_append_left _ (List.mem_flatMap.2 ⟨comp, hcomp, List.mem_flatMap.2 ⟨a, ha, hv ▸ hx⟩⟩)
  · exact collect_foldl_rebindMember part hcell _ d x hx

end Jsx

end UiLang
