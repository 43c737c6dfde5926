import LiveTable.Proofs.Table.Frame

/-!
# Sort columns of a table

The declared columns of a table are fixed when it is built, with the directions they take next and
the one applied last. Only sorting and toggling change these.

* `sortState t`: the declared columns of `t` and the active one;
* `sortState_add`, `sortState_sort`, …: what each operation makes of them;
* `Sortable t`: `t` has sort columns when its options declare some, and one of them is active;
* `Reachable.sortable`: every reachable table is sortable in this sense.
-/

namespace LiveTable.Table

/-- The declared columns with the directions they take next, and the column applied last. -/
def sortState (t : Table) : Option (Dict String SortSpec × Option SortSpec) :=
  t.sorting.map fun s => (s.columns, s.active)

variable (t : Table)

/-! ### Operations -/

theorem sortState_renew : t.renew.sortState = t.sortState := by
  obtain ⟨order, found, h⟩ := t.renew_eq_reorder
  rw [h]
  show (t.sorting.map _).map _ = t.sorting.map _
  rw [Option.map_map]
  rfl

@[simp] theorem sortState_add (batch : List Value) :
    (t.add batch).table.sortState = t.sortState := by
  simp only [add]
  split
  · rfl
  · have hs : (t.append (t.receive batch).1).renew.sortState = t.sortState := by
      rw [sortState_renew]
      simp only [sortState, append, Option.map_map, Function.comp_def]
    split <;> exact hs

@[simp] theorem sortState_search (text : String) :
    (t.search text).table.sortState = t.sortState := by
  simp only [search]
  split
  · rfl
  · split <;> simp only [sortState, renewLinks, renderPage, findRows]

theorem sortState_sort (spec : SortSpec) :
    (t.sort spec).table.sortState = t.sortState.map fun (columns, _) => (columns, some spec) := by
  unfold sort
  split
  · simp [sortState, *]
  · simp [sortState, renderPage, arrangeBy, *]

theorem sortState_toggle (field : String) :
    (t.toggle field).table.sortState = t.sortState.map fun (columns, active) =>
      match columns.get? field with
      | none => (columns, active)
      | some spec =>
        (columns.insert field { spec with direction := spec.direction.flip }, some spec) := by
  cases hs : t.sorting with
  | none => simp [toggle, sortState, hs]
  | some s =>
    cases hspec : s.columns.get? field with
    | none => simp [toggle, sortState, hs, hspec]
    | some spec => simp [toggle, sort, renderPage, arrangeBy, sortState, hs, hspec]

@[simp] theorem sortState_goTo (target : PageTarget) :
    (t.goTo target).table.sortState = t.sortState := by
  unfold goTo
  split <;> simp only [sortState, renewLinks, renderPage]

@[simp] theorem sortState_resize (size : Nat) :
    (t.resize size).table.sortState = t.sortState := by
  simp only [resize]
  split
  · rfl
  · split <;> simp only [sortState, renewLinks, renderPage]

/-! ### Declared columns -/

/-- A table has sort columns when its options declare some, and then one of them is active. -/
structure Sortable (t : Table) : Prop where
  declared : t.sortState.isSome ↔ t.setup.options.sorting ≠ []
  active : ∀ columns spec, t.sortState = some (columns, spec) → spec.isSome

theorem sortState_first (setup : Setup) (columns : List SortSpec) :
    if columns = [] then (first setup columns).sortState = none
    else ∃ d spec, (first setup columns).sortState = some (d, some spec) := by
  have hnil := Dict.ofList_eq_nil_iff (columns.map fun spec => (spec.field, spec))
  rw [List.map_eq_nil_iff] at hnil
  cases hd : Dict.ofList (columns.map fun spec => (spec.field, spec)) with
  | nil =>
    rw [if_pos (hnil.1 hd)]
    simp [first, applyFirst, blank, renewLinks, sortState, hd]
  | cons e d =>
    rw [if_neg fun h => by simp [hnil.2 h] at hd]
    have hblank : (blank setup columns).sorting = some ⟨e :: d, [], none⟩ := by
      simp [blank, renewLinks, hd]
    have htoggle : first setup columns = ((blank setup columns).toggle e.1).table := by
      simp [first, applyFirst, hblank, Dict.keys]
    have hkey : Dict.get? (e :: d) e.1 = some e.2 := if_pos rfl
    rw [htoggle, sortState_toggle, sortState, hblank]
    simp only [Option.map_some, hkey]
    exact ⟨_, e.2, rfl⟩

/-- The options of a table read as one column for each declaration. -/
theorem columns_eq_nil_iff {o : Options} {columns : List SortSpec} (h : o.columns = .ok columns) :
    columns = [] ↔ o.sorting = [] := by
  unfold Options.columns at h
  cases hs : o.sorting with
  | nil =>
    rw [hs] at h
    cases h
    simp
  | cons declaration rest =>
    rw [hs, List.mapM_cons] at h
    cases hread : SortSpec.read declaration with
    | error e => simp [hread, bind, Except.bind] at h
    | ok spec =>
      cases hrest : rest.mapM SortSpec.read with
      | error e => simp [hread, hrest, bind, Except.bind] at h
      | ok specs =>
        simp only [hread, hrest, bind, Except.bind, pure, Except.pure, Except.ok.injEq] at h
        simp [← h]

theorem sortable_first (setup : Setup) {columns : List SortSpec}
    (hcolumns : setup.options.columns = .ok columns) : Sortable (first setup columns) := by
  have hsetup : (first setup columns).setup = setup := setup_applyFirst _
  -- The blank table has no active column yet: applying the first one is what makes one active.
  have hstate := sortState_first setup columns
  have hnil := columns_eq_nil_iff hcolumns
  split at hstate
  · rename_i hc
    exact ⟨by simp [hstate, hsetup, hnil.1 hc], by simp [hstate]⟩
  · rename_i hc
    obtain ⟨d, spec, hstate⟩ := hstate
    exact ⟨by simp [hstate, hsetup, mt hnil.2 hc], by simp +contextual [hstate]⟩

theorem Sortable.of_eq {t u : Table} (h : Sortable t) (hsetup : u.setup = t.setup)
    (hstate : u.sortState = t.sortState) : Sortable u where
  declared := by rw [hstate, hsetup]; exact h.declared
  active := by rw [hstate]; exact h.active

theorem Sortable.perform {t : Table} (h : Sortable t) (command : Command) :
    Sortable (t.perform command).table := by
  refine perform_induction command h (fun rows _ => h.of_eq (by simp) (by simp))
    (fun text => h.of_eq (keeps_search t text).setup (by simp)) (fun spec => ⟨?_, ?_⟩)
    (fun field => ⟨?_, ?_⟩) (fun target => h.of_eq (keeps_goTo t target).setup (by simp))
    (fun size => h.of_eq (keeps_resize t size).setup (by simp)) (h.of_eq rfl rfl)
  · rw [sortState_sort, (keeps_sort t spec).setup, Option.isSome_map]
    exact h.declared
  · intro columns active hstate
    rw [sortState_sort] at hstate
    obtain ⟨_, -, ⟨⟩⟩ := Option.map_eq_some_iff.1 hstate
    rfl
  · rw [sortState_toggle, (keeps_toggle t field).setup, Option.isSome_map]
    exact h.declared
  · intro columns active hstate
    rw [sortState_toggle] at hstate
    obtain ⟨⟨columns', active'⟩, hstate', heq⟩ := Option.map_eq_some_iff.1 hstate
    dsimp only at heq
    split at heq <;> cases heq
    · exact h.active _ _ hstate'
    · rfl

/-- **Every reachable table has sort columns when its options declare some, and one is active.** -/
theorem Reachable.sortable {t : Table} (h : Reachable t) : Sortable t := by
  induction h with
  | @build draft built h =>
    obtain ⟨view, columns, -, -, hcolumns, htable⟩ := build_eq_ok h
    have hfirst := sortable_first (draft.setup view) hcolumns
    rw [htable]
    split
    · exact hfirst
    · exact hfirst.perform (.add _)
  | perform command _ ih => exact ih.perform command
  | withCallbacks _ _ _ ih => exact ⟨ih.declared, ih.active⟩

end LiveTable.Table
