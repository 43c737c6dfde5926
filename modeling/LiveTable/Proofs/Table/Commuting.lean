import LiveTable.Proofs.Table.Batches
import LiveTable.Proofs.Table.Fresh

/-!
# Operations in either order

A table is determined by what it has been told: its rows with their index, its query, its sort
columns with the order of all rows, its page and the size of pages, and whether streaming has been
stopped. The rows found, the markup and the links follow from these. Two orders of operations that
leave the same of the former therefore end in the same table.

* `Table.core t`: `t` without what follows from the rest;
* `Arranged.settle_eq`, `eq_of_core_eq`: a table whose outputs are fresh is its core, settled;
* `Table.seek`, `Table.rank`, `Table.scale`, `Table.gain`: what searching, sorting, another page
  size and new rows do to a core;
* `core_search`, `core_sort`, `core_resize`, `Arranged.core_add`: they do so;
* `map_seek`, `map_scale`: what may be done before or after the query or the size of pages changes;
* `operations_commute_of_reachable`: these operations may change places.
-/

namespace LiveTable.Table

variable {t u : Table}

/-! ### What a table is determined by -/

/-- The table without what follows from the rest. -/
def core (t : Table) : Table := { t with found := [], rendered := "", links := [] }

theorem settle_core (t : Table) : t.core.settle = t.settle := rfl

theorem settle_running (t : Table) : t.running.settle = t.settle.running := rfl

theorem core_running (t : Table) : t.running.core = t.core.running := rfl

/-- What follows from the rest is what it would be if it were made anew. -/
theorem Arranged.settle_eq (ha : Arranged t) (hf : Fresh t) : t.settle = t := by
  have hfound : { t with found := t.searched } = t := by rw [← ha.found]
  rw [settle, hfound, hf.refresh_eq]

/-- **Tables that differ at most in what follows from the rest are the same.** -/
theorem eq_of_core_eq (ht : t.settle = t) (hu : u.settle = u) (h : t.core = u.core) : t = u := by
  rw [← ht, ← hu, ← settle_core t, ← settle_core u, h]

theorem Reachable.settle_eq (h : Reachable t) : t.settle = t := h.arranged.settle_eq h.fresh

/-! ### What operations do to a core -/

/-- Another query starts at the first page. -/
def seek (t : Table) (query : String) : Table :=
  if query = t.query then t else { t with query, page := 0 }

/-- All rows are arranged by a column. -/
def rank (t : Table) (spec : SortSpec) : Table :=
  { t with
    sorting := t.sorting.map fun s =>
      { s with order := spec.arrange t.rows s.order, active := some spec } }

/-- Another size of pages starts at the first page. -/
def scale (t : Table) (size : Nat) : Table :=
  if size = t.pageSize ∨ size = 0 then t else { t with pageSize := size, page := 0 }

/-- What the owner is told when rows have come in. -/
def arrival (t : Table) (rows : List Value) : Added :=
  ⟨rows.length, (t.append rows).rows.length, (t.append rows).arrange.settle.visible.length⟩

/-- Rows come in and are arranged with the others, and streaming stops if the owner says so. -/
def gain (t : Table) (rows : List Value) : Table :=
  if rows = [] then t
  else if t.setup.stopsAfter (t.arrival rows) then (t.append rows).arrange.stop
  else (t.append rows).arrange

theorem core_search (t : Table) (text : String) :
    (t.search text).table.core = t.core.seek (Text.trim text) := by
  have hquery : t.core.query = t.query := rfl
  simp only [search, seek, hquery]
  split
  · rfl
  · split <;> rfl

theorem core_sort (t : Table) (spec : SortSpec) :
    (t.sort spec).table.core = t.core.rank spec := by
  cases hs : t.sorting with
  | none => simp only [sort, rank, core, hs, Option.map_none]
  | some s => simp only [sort, rank, core, hs, Option.map_some, arrangeBy, renderPage]

theorem core_resize (t : Table) (size : Nat) :
    (t.resize size).table.core = t.core.scale size := by
  have hsize : t.core.pageSize = t.pageSize := rfl
  simp only [resize, scale, hsize]
  by_cases hsame : size = t.pageSize
  · rw [if_pos hsame, if_pos (.inl hsame)]
  · by_cases hzero : size = 0
    · rw [if_neg hsame, if_pos hzero, if_pos (.inr hzero)]
    · rw [if_neg hsame, if_neg hzero, if_neg (not_or.2 ⟨hsame, hzero⟩)]
      rfl

theorem Arranged.core_add (h : Arranged t) (batch : List Value) :
    (t.add batch).table.core = t.core.gain (t.receive batch).1 := by
  have hrenew : (t.append (t.receive batch).1).renew =
      (t.append (t.receive batch).1).arrange.settle := renew_eq_settle h.idle
  simp only [Table.add, List.isEmpty_iff, gain, hrenew]
  split
  · rfl
  · have htold : (t.append (t.receive batch).1).arrange.settle.setup.stopsAfter
        ⟨(t.receive batch).1.length, (t.append (t.receive batch).1).arrange.settle.rows.length,
          (t.append (t.receive batch).1).arrange.settle.visible.length⟩ =
        t.core.setup.stopsAfter (t.core.arrival (t.receive batch).1) := rfl
    rw [htold]
    split <;> rfl

/-! ### Cores -/

/-- What neither reads nor writes the query and the page may be done before or after a search. -/
theorem map_seek {f : Table → Table} {query : String} (hkeep : (f t).query = t.query)
    (hmove : f { t with query, page := 0 } = { f t with query, page := 0 }) :
    f (t.seek query) = (f t).seek query := by
  unfold seek
  rw [hkeep]
  split
  · rfl
  · exact hmove

/-- What neither reads nor writes the page and its size may be done before or after the size
changes. -/
theorem map_scale {f : Table → Table} {size : Nat} (hkeep : (f t).pageSize = t.pageSize)
    (hmove : f { t with pageSize := size, page := 0 } = { f t with pageSize := size, page := 0 }) :
    f (t.scale size) = (f t).scale size := by
  unfold scale
  rw [hkeep]
  split
  · rfl
  · exact hmove

theorem rank_seek (t : Table) (query : String) (spec : SortSpec) :
    (t.seek query).rank spec = (t.rank spec).seek query :=
  map_seek (f := (·.rank spec)) rfl rfl

theorem rank_scale (t : Table) (size : Nat) (spec : SortSpec) :
    (t.scale size).rank spec = (t.rank spec).scale size :=
  map_scale (f := (·.rank spec)) rfl rfl

/-- Both start at the first page, so that either may come first. -/
theorem scale_seek (t : Table) (query : String) (size : Nat) :
    (t.seek query).scale size = (t.scale size).seek query := by
  unfold seek scale
  by_cases hquery : query = t.query <;> by_cases hsize : size = t.pageSize ∨ size = 0 <;>
    simp only [hquery, hsize, if_true, if_false]

theorem arrange_append_seek (t : Table) (query : String) (rows : List Value) :
    ((t.seek query).append rows).arrange = (t.append rows).arrange.seek query :=
  map_seek (f := fun t => (t.append rows).arrange) rfl rfl

theorem arrange_append_scale (t : Table) (size : Nat) (rows : List Value) :
    ((t.scale size).append rows).arrange = (t.append rows).arrange.scale size :=
  map_scale (f := fun t => (t.append rows).arrange) rfl rfl

/-- How rows are cut into pages is nothing to tell the owner of when rows have come in. -/
theorem stopsAfter_scale (t : Table) (size : Nat) (rows : List Value) :
    (t.scale size).setup.stopsAfter ((t.scale size).arrival rows) =
      t.setup.stopsAfter (t.arrival rows) := by
  unfold scale
  split <;> rfl

theorem gain_scale (t : Table) (size : Nat) (rows : List Value) :
    (t.scale size).gain rows = (t.gain rows).scale size := by
  unfold gain
  rw [stopsAfter_scale, arrange_append_scale]
  split
  · rfl
  · split
    · exact map_scale (f := stop) rfl rfl
    · rfl

/-- Which rows are visible may decide whether streaming stops, and nothing else. -/
theorem running_gain (t : Table) (rows : List Value) :
    (t.gain rows).running = if rows = [] then t.running else (t.append rows).arrange.running := by
  unfold gain
  split
  · rfl
  · split <;> rfl

theorem running_seek (t : Table) (query : String) :
    (t.seek query).running = t.running.seek query :=
  map_seek (f := running) rfl rfl

theorem running_gain_seek (t : Table) (query : String) (rows : List Value) :
    ((t.seek query).gain rows).running = ((t.gain rows).seek query).running := by
  rw [running_gain, running_seek, running_seek, running_gain, arrange_append_seek, running_seek]
  split <;> rfl

/-! ### Tables -/

theorem receive_eq_of_setup (h : u.setup = t.setup) (batch : List Value) :
    u.receive batch = t.receive batch := by
  rw [receive, receive, h]

theorem Reachable.sort_search (h : Reachable t) (text : String) (spec : SortSpec) :
    ((t.search text).table.sort spec).table = ((t.sort spec).table.search text).table := by
  refine eq_of_core_eq ((h.search text).sort spec).settle_eq
    ((h.sort spec).search text).settle_eq ?_
  rw [core_sort, core_search, core_search, core_sort, rank_seek]

theorem Reachable.resize_search (h : Reachable t) (text : String) (size : Nat) :
    ((t.search text).table.resize size).table = ((t.resize size).table.search text).table := by
  refine eq_of_core_eq ((h.search text).resize size).settle_eq
    ((h.resize size).search text).settle_eq ?_
  rw [core_resize, core_search, core_search, core_resize, scale_seek]

theorem Reachable.resize_sort (h : Reachable t) (spec : SortSpec) (size : Nat) :
    ((t.sort spec).table.resize size).table = ((t.resize size).table.sort spec).table := by
  refine eq_of_core_eq ((h.sort spec).resize size).settle_eq
    ((h.resize size).sort spec).settle_eq ?_
  rw [core_resize, core_sort, core_sort, core_resize, rank_scale]

theorem Reachable.resize_add (h : Reachable t) (batch : List Value) (size : Nat) :
    ((t.add batch).table.resize size).table = ((t.resize size).table.add batch).table := by
  refine eq_of_core_eq ((h.add batch).resize size).settle_eq
    ((h.resize size).add batch).settle_eq ?_
  rw [core_resize, h.arranged.core_add, (h.resize size).arranged.core_add, core_resize, gain_scale,
    receive_eq_of_setup (keeps_resize t size).setup]

/-- Whether streaming is stopped may depend on which rows were visible when others came in. -/
theorem Reachable.running_search_add (h : Reachable t) (batch : List Value) (text : String) :
    ((t.add batch).table.search text).table.running =
      ((t.search text).table.add batch).table.running := by
  refine eq_of_core_eq ?_ ?_ ?_
  · rw [settle_running, ((h.add batch).search text).settle_eq]
  · rw [settle_running, ((h.search text).add batch).settle_eq]
  · rw [core_running, core_running, core_search, h.arranged.core_add,
      (h.search text).arranged.core_add, core_search, running_gain_seek,
      receive_eq_of_setup (keeps_search t text).setup]

/-- **Searching, sorting and another page size may change places, and so may new rows with a search
and with another page size.** The tables are the same in the end, for new rows and a search apart
from whether streaming has been stopped: that is decided by what is visible when the rows come
in. -/
theorem operations_commute_of_reachable (h : Reachable t) (text : String) (spec : SortSpec)
    (size : Nat) (batch : List Value) :
    ((t.search text).table.sort spec).table = ((t.sort spec).table.search text).table ∧
      ((t.search text).table.resize size).table = ((t.resize size).table.search text).table ∧
      ((t.sort spec).table.resize size).table = ((t.resize size).table.sort spec).table ∧
      ((t.add batch).table.search text).table.running =
        ((t.search text).table.add batch).table.running ∧
      ((t.add batch).table.resize size).table = ((t.resize size).table.add batch).table :=
  ⟨h.sort_search text spec, h.resize_search text size, h.resize_sort spec size,
    h.running_search_add batch text, h.resize_add batch size⟩

/-- The second page of the films, one film on each. -/
theorem operations_commute_films : ∃ built, build films = .ok built ∧
    let t := ((built.table.resize 1).table.goTo .next).table
    let byName : SortSpec := ⟨"name", .ascending, .text⟩
    let alien : List Value := [.object [("name", .string "Alien"), ("year", .null)]]
    ((t.search " a ").table.sort byName).table = ((t.sort byName).table.search " a ").table ∧
      ((t.search " a ").table.resize 2).table = ((t.resize 2).table.search " a ").table ∧
      ((t.sort byName).table.resize 2).table = ((t.resize 2).table.sort byName).table ∧
      ((t.add alien).table.search " a ").table.running =
        ((t.search " a ").table.add alien).table.running ∧
      ((t.add alien).table.resize 2).table = ((t.resize 2).table.add alien).table := by
  obtain ⟨built, h⟩ := exists_build_films
  exact ⟨built, h,
    operations_commute_of_reachable (((Reachable.build h).resize 1).goTo .next) _ _ _ _⟩

end LiveTable.Table
