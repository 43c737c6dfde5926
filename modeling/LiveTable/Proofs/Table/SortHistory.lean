import LiveTable.Proofs.Table.Visible

/-!
# One sort after another

A sort leaves rows that it ties as they stood. A table that is sorted again and again is therefore
sorted by the last column, rows tied there by the column before it, and so on; rows tied in all of
them stand as they stood before the first sort. Searches and page moves in between change nothing
about it.

* `Table.performAll t commands`: the table after commands, one after another;
* `Table.sortedBy t command`, `Table.sortedByAll t commands`: the columns that commands sort by, the
  last one first;
* `StandsBefore rows stood columns a b`: the row at the offset `a` stands before the one at `b` when
  columns decide in turn, and where it stood decides at last;
* `arrangement_perform`: what a command makes of the order of all rows;
* `pairwise_performAll`: commands put all rows in the order of their columns;
* `SortedSince t u columns`: `u` is `t` sorted by columns, the rows found like all others;
* `sortedSince_of_reachable`: commands that add no rows make every reachable table so.
-/

namespace LiveTable.Table

variable {t : Table}

/-! ### Histories -/

/-- The table after commands, one after another. -/
def performAll (t : Table) (commands : List Command) : Table :=
  commands.foldl (fun t command => (t.perform command).table) t

/-- The column that a command sorts a table with sort columns by, if it sorts it. -/
def sortedBy (t : Table) : Command → Option SortSpec
  | .sort spec => some spec
  | .toggle field => (t.toggle field).answer.toOption
  | _ => none

/-- The columns that commands sort a table with sort columns by, the last one first. -/
def sortedByAll (t : Table) : List Command → List SortSpec
  | [] => []
  | command :: commands =>
    (t.perform command).table.sortedByAll commands ++ (t.sortedBy command).toList

theorem performAll_cons (t : Table) (command : Command) (commands : List Command) :
    t.performAll (command :: commands) = (t.perform command).table.performAll commands := rfl

theorem setup_performAll (t : Table) (commands : List Command) :
    (t.performAll commands).setup = t.setup := by
  induction commands generalizing t with
  | nil => rfl
  | cons command commands ih => rw [performAll_cons, ih, setup_perform]

theorem rows_prefix_performAll (t : Table) (commands : List Command) :
    t.rows <+: (t.performAll commands).rows := by
  induction commands generalizing t with
  | nil => exact List.prefix_refl t.rows
  | cons command commands ih => exact (rows_prefix_perform t command).trans (ih _)

/-- Commands that add no rows in the end add none on the way. -/
theorem rows_perform_of_performAll {command : Command} {commands : List Command}
    (h : (t.performAll (command :: commands)).rows = t.rows) :
    (t.perform command).table.rows = t.rows := by
  have hfirst := rows_prefix_perform t command
  have hrest : (t.perform command).table.rows <+: t.rows :=
    h ▸ rows_prefix_performAll (t.perform command).table commands
  exact (hfirst.eq_of_length_le hrest.length_le).symm

theorem Reachable.performAll (h : Reachable t) (commands : List Command) :
    Reachable (t.performAll commands) := by
  induction commands generalizing t with
  | nil => exact h
  | cons command commands ih => exact ih (h.perform command)

/-! ### Columns that decide in turn -/

/-- The row at an offset stands before the one at another: the first column puts it there, or ties
the two and leaves it to the next ones. Rows tied in every column stand as they stood. -/
def StandsBefore (rows : List Value) (stood : Nat → Nat → Prop) :
    List SortSpec → Nat → Nat → Prop
  | [], a, b => stood a b
  | spec :: columns, a, b =>
    spec.compareAt rows a b = .lt ∨
      spec.compareAt rows a b = .eq ∧ StandsBefore rows stood columns a b

theorem standsBefore_append (rows : List Value) (stood : Nat → Nat → Prop)
    (later earlier : List SortSpec) :
    StandsBefore rows stood (later ++ earlier) =
      StandsBefore rows (StandsBefore rows stood earlier) later := by
  induction later with
  | nil => rfl
  | cons spec later ih =>
    funext a b
    rw [List.cons_append, StandsBefore, StandsBefore, ih]

/-! ### What a command makes of the order -/

theorem arrangement_search (t : Table) (text : String) :
    (t.search text).table.arrangement = t.arrangement := by
  simp only [search]
  split
  · rfl
  · split <;> rfl

theorem arrangement_goTo (t : Table) (target : PageTarget) :
    (t.goTo target).table.arrangement = t.arrangement := by
  unfold goTo
  split <;> rfl

theorem arrangement_resize (t : Table) (size : Nat) :
    (t.resize size).table.arrangement = t.arrangement := by
  simp only [resize]
  split
  · rfl
  · split <;> rfl

theorem arrangement_sort (hsorting : t.sorting.isSome) (spec : SortSpec) :
    (t.sort spec).table.arrangement = spec.arrange t.rows t.arrangement := by
  obtain ⟨s, hs⟩ := Option.isSome_iff_exists.1 hsorting
  simp only [sort, hs, arrangement, arrangeBy, renderPage]

/-- A toggle sorts by the column that it answers, or changes nothing. -/
theorem arrangement_toggle (t : Table) (field : String) :
    (t.toggle field).table.arrangement =
      (t.toggle field).answer.toOption.elim t.arrangement (·.arrange t.rows t.arrangement) := by
  cases hs : t.sorting with
  | none =>
    simp only [toggle, hs, Option.bind_none]
    rfl
  | some s =>
    cases hspec : s.columns.get? field with
    | none =>
      simp only [toggle, hs, hspec, Option.bind_some, Option.map_none]
      rfl
    | some spec =>
      have harrangement : t.arrangement = s.order := by rw [arrangement, hs]
      rw [harrangement]
      simp only [toggle, hs, hspec, Option.bind_some, Option.map_some]
      -- The direction of the next toggle is turned around first, which moves no row.
      let columns := s.columns.insert field { spec with direction := spec.direction.flip }
      exact arrangement_sort (t := { t with sorting := some { s with columns } }) rfl spec

theorem arrangement_add {batch : List Value} (hrows : (t.add batch).table.rows = t.rows) :
    (t.add batch).table.arrangement = t.arrangement := by
  rw [rows_add, List.append_right_eq_self] at hrows
  simp only [add, hrows, List.isEmpty_nil, if_true]

/-- **A command that adds no rows arranges all rows by the column that it sorts by, if any.** -/
theorem arrangement_perform (hsorting : t.sorting.isSome) {command : Command}
    (hrows : (t.perform command).table.rows = t.rows) :
    (t.perform command).table.arrangement =
      (t.sortedBy command).elim t.arrangement (·.arrange t.rows t.arrangement) := by
  cases command with
  | add rows => exact arrangement_add hrows
  | search text => exact arrangement_search t text
  | sort spec => exact arrangement_sort hsorting spec
  | toggle field => exact arrangement_toggle t field
  | goTo target => exact arrangement_goTo t target
  | goToText text =>
    simp only [perform]
    split
    · exact arrangement_goTo t _
    · rfl
  | resize size => exact arrangement_resize t size
  | _ => rfl

theorem Reachable.isSome_sorting_iff (h : Reachable t) :
    t.sorting.isSome ↔ t.setup.options.sorting ≠ [] := by
  rw [← h.sortable.declared, sortState, Option.isSome_map]

/-! ### What a history makes of the order -/

theorem pairwise_perform (hsorting : t.sorting.isSome) {command : Command}
    (hrows : (t.perform command).table.rows = t.rows) {stood : Nat → Nat → Prop}
    (h : t.arrangement.Pairwise stood) :
    (t.perform command).table.arrangement.Pairwise
      (StandsBefore t.rows stood (t.sortedBy command).toList) := by
  rw [arrangement_perform hsorting hrows]
  cases t.sortedBy command with
  | none => exact h
  | some spec => exact spec.pairwise_arrange_of_pairwise t.rows h

/-- **Commands that add no rows put all rows in the order of the columns that they sort by, the last
one first.** -/
theorem pairwise_performAll (ht : Reachable t) (hdeclared : t.setup.options.sorting ≠ [])
    {commands : List Command} (hrows : (t.performAll commands).rows = t.rows)
    {stood : Nat → Nat → Prop} (h : t.arrangement.Pairwise stood) :
    (t.performAll commands).arrangement.Pairwise
      (StandsBefore t.rows stood (t.sortedByAll commands)) := by
  -- How the rows stand after the first command is how they stood for the rest of them.
  induction commands generalizing t stood with
  | nil => exact h
  | cons command commands ih =>
    have hfirst : (t.perform command).table.rows = t.rows := rows_perform_of_performAll hrows
    have hrest := ih (ht.perform command) (by rwa [setup_perform]) (hrows.trans hfirst.symm)
      (pairwise_perform (ht.isSome_sorting_iff.2 hdeclared) hfirst h)
    rw [hfirst] at hrest
    rw [performAll_cons, sortedByAll, standsBefore_append]
    exact hrest

/-- A table is another one whose rows have been sorted by columns, the last one first. Rows tied in
all columns stand as they stood in the order of all rows, of which the visible ones are a part. -/
structure SortedSince (t u : Table) (columns : List SortSpec) : Prop where
  /-- There are the same rows. -/
  rows : u.rows = t.rows
  /-- Their order is kept, with every row in it once. -/
  index : ∃ s, u.sorting = some s ∧ s.order = u.arrangement
  perm : u.arrangement.Perm (List.range t.rows.length)
  /-- All rows stand in the order of the columns. -/
  all : u.arrangement.Pairwise (StandsBefore t.rows ([·, ·].Sublist t.arrangement) columns)
  /-- So do the visible ones. -/
  visible : u.visible.Pairwise (StandsBefore t.rows ([·, ·].Sublist t.arrangement) columns)
  /-- These are the rows found, in the order of all rows. -/
  agree : u.visible = u.arrangement.filter fun offset => u.Finds offset
  /-- Each visible offset shows its row. -/
  shown : u.visibleRows.map some = u.visible.map (t.rows[·]?)

/-- **Rows that are sorted again and again stand in the order of the last column, ties broken by the
one before it, and so on, and at last by how they stood.** -/
theorem sortedSince_of_reachable (h : Reachable t) (hdeclared : t.setup.options.sorting ≠ [])
    (commands : List Command) (hrows : (t.performAll commands).rows = t.rows) :
    SortedSince t (t.performAll commands) (t.sortedByAll commands) := by
  have hu := h.performAll commands
  -- In the order as it was, the first of two rows stands before the second.
  have hall := pairwise_performAll h hdeclared hrows
    (List.pairwise_iff_forall_sublist.2 fun {a b} (hab : [a, b].Sublist t.arrangement) => hab)
  obtain ⟨s, hs⟩ := Option.isSome_iff_exists.1
    (hu.isSome_sorting_iff.2 (by rwa [setup_performAll]))
  have hagree := hu.arranged.visible_eq
  exact {
    rows := hrows
    index := ⟨s, hs, by rw [arrangement, hs]⟩
    perm := hrows ▸ hu.arranged.arrangement_perm
    all := hall
    visible := hagree ▸ hall.filter _
    agree := hagree
    shown := hrows ▸ hu.arranged.map_some_visibleRows }

/-- Films are sorted by name and then by year, with a search in between. -/
def browsing : List Command :=
  [.sort ⟨"name", .ascending, .text⟩, .search " a ", .toggle "year", .goTo .last]

theorem rows_browsing (t : Table) : (t.performAll browsing).rows = t.rows :=
  (keeps_goTo _ .last).rows.trans <| (keeps_toggle _ "year").rows.trans <|
    (keeps_search _ " a ").rows.trans (keeps_sort t _).rows

theorem sortedSince_films : ∃ built, build films = .ok built ∧
    built.table.setup.options.sorting ≠ [] ∧
      (built.table.performAll browsing).rows = built.table.rows ∧
      SortedSince built.table (built.table.performAll browsing)
        [⟨"year", .ascending, .number⟩, ⟨"name", .ascending, .text⟩] := by
  obtain ⟨built, h⟩ := exists_build_films
  have hbuilt : (build films).toOption = some built := by rw [h]; rfl
  have hoptions : (build films).toOption.map (·.table.setup.options.sorting) =
      some ["year:desc:number", "name"] := rfl
  have hcolumns : (build films).toOption.map (·.table.sortedByAll browsing) =
      some [⟨"year", .ascending, .number⟩, ⟨"name", .ascending, .text⟩] := rfl
  rw [hbuilt, Option.map_some, Option.some.injEq] at hoptions hcolumns
  have hdeclared : built.table.setup.options.sorting ≠ [] := by simp [hoptions]
  refine ⟨built, h, hdeclared, rows_browsing _, ?_⟩
  rw [← hcolumns]
  exact sortedSince_of_reachable (.build h) hdeclared browsing (rows_browsing _)

end LiveTable.Table
