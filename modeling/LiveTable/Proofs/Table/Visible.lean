import LiveTable.Proofs.Table.Arranged
import LiveTable.Proofs.Table.SortColumns

/-!
# The visible rows

A table shows the rows that its query finds, each once, in the order of its active sort column or,
without sort columns, in the order in which they came.

* `Table.textSource t`: the parts of a row that make up the search texts of `t`;
* `Table.Finds t o`: the row at the offset `o` has a search text with the query of `t` in it;
* `Arranged.visible_eq`: the visible rows are those found, in the order of all rows;
* `ShowsMatches t`: all that is said above, and what the derived lists of `t` hold;
* `showsMatches_of_reachable`: every reachable table shows its matches.
-/

namespace LiveTable.Table

variable {t : Table}

/-- The parts of a row that make up the search texts of a table: those of its options, or else
those that its first row chooses. -/
def textSource (t : Table) : TextSource :=
  .choose (t.rows.headD .null) t.setup.options.fields

/-- The row at an offset has a search text with the query in it, in upper case. -/
def Finds (t : Table) (offset : Nat) : Prop :=
  ∃ row, t.rows[offset]? = some row ∧
    (Text.upper t.query).toList <:+: (t.textSource.text row).toList

instance (t : Table) : DecidablePred t.Finds := fun offset =>
  decidable_of_iff
    ((t.rows[offset]?).any fun row =>
      Text.occursIn (Text.upper t.query).toList (t.textSource.text row).toList) <| by
    simp only [Finds, Option.any_eq_true, Text.occursIn_iff]

/-- The first row of a table stays the first. -/
theorem textSource_eq_of_prefix {u : Table} (hsetup : u.setup = t.setup)
    (hrows : t.rows <+: u.rows) (hne : t.rows ≠ []) : u.textSource = t.textSource := by
  obtain ⟨more, hmore⟩ := hrows
  rw [textSource, textSource, hsetup, ← hmore]
  cases hr : t.rows with
  | nil => exact absurd hr hne
  | cons row rows => rfl

theorem Finds.lt {offset : Nat} (h : t.Finds offset) : offset < t.rows.length := by
  obtain ⟨row, hrow, -⟩ := h
  exact (List.getElem?_eq_some_iff.1 hrow).1

/-- The empty query finds every row. -/
theorem finds_iff_of_query_eq_empty (hquery : t.query = "") {offset : Nat} :
    t.Finds offset ↔ offset < t.rows.length := by
  refine ⟨Finds.lt, fun h => ⟨_, List.getElem?_eq_getElem h, ?_⟩⟩
  rw [hquery]
  exact List.nil_infix

theorem Indexed.contains_iff_finds (h : Indexed t) (offset : Nat) :
    t.index.contains offset (Text.upper t.query) ↔ t.Finds offset := by
  rw [h.index, SearchIndex.contains_ofRows]
  rfl

/-! ### Offsets -/

/-- **The visible rows are those found, in the order of all rows.** -/
theorem Arranged.visible_eq (h : Arranged t) :
    t.visible = t.arrangement.filter fun offset => t.Finds offset := by
  unfold visible
  split
  · rename_i hquery
    symm
    rw [List.filter_eq_self]
    intro offset hmem
    rw [decide_eq_true_eq, finds_iff_of_query_eq_empty hquery]
    exact h.lt_of_mem hmem
  · rename_i hquery
    rw [h.found, searched, if_neg hquery, SearchIndex.search_eq_filter]
    refine List.filter_congr fun offset _ => ?_
    rw [Bool.eq_iff_iff, h.contains_iff_finds, decide_eq_true_eq]

theorem Arranged.visible_perm (h : Arranged t) :
    t.visible.Perm ((List.range t.rows.length).filter fun offset => t.Finds offset) := by
  rw [h.visible_eq]
  exact h.arrangement_perm.filter _

theorem Arranged.mem_visible (h : Arranged t) {offset : Nat} :
    offset ∈ t.visible ↔ t.Finds offset := by
  rw [h.visible_perm.mem_iff, List.mem_filter, List.mem_range, decide_eq_true_eq]
  exact ⟨And.right, fun hf => ⟨hf.lt, hf⟩⟩

theorem Arranged.nodup_visible (h : Arranged t) : t.visible.Nodup :=
  h.visible_perm.nodup_iff.2 (List.nodup_range.filter _)

/-! ### Rows -/

theorem visibleRows_eq (t : Table) : t.visibleRows = t.visible.filterMap (t.rows[·]?) := by
  simp [visibleRows, List.getElem?_toArray]

/-- Each visible offset shows its row. -/
theorem Arranged.map_some_visibleRows (h : Arranged t) :
    t.visibleRows.map some = t.visible.map (t.rows[·]?) := by
  have hlt : ∀ offset ∈ t.visible, offset < t.rows.length := fun offset hmem =>
    (h.mem_visible.1 hmem).lt
  rw [visibleRows_eq]
  generalize t.visible = offsets at hlt
  induction offsets with
  | nil => rfl
  | cons offset offsets ih =>
    have hrow := List.getElem?_eq_getElem (hlt offset List.mem_cons_self)
    simp only [List.filterMap_cons, hrow, List.map_cons, List.cons.injEq, true_and]
    exact ih fun o ho => hlt o (List.mem_cons_of_mem _ ho)

/-- Sorted offsets show sorted rows. -/
theorem Arranged.pairwise_visibleRows (h : Arranged t) {spec : SortSpec}
    (hactive : t.active = some spec) :
    t.visibleRows.Pairwise fun a b => spec.compare a b ≠ .gt := by
  obtain ⟨s, hs, hspec⟩ := Option.bind_eq_some_iff.1 hactive
  have hsorted : t.visible.Pairwise (spec.inOrder t.rows · ·) := by
    rw [h.visible_eq, arrangement, hs]
    exact (h.sorted s spec hs hspec).filter _
  rw [visibleRows_eq, List.pairwise_filterMap]
  refine hsorted.imp fun {a b} hab x hx y hy => ?_
  rw [spec.inOrder_iff, hx, hy] at hab
  exact hab

/-! ### Reachable tables -/

/-- A table shows the rows that its query finds, and its derived lists hold what they should. -/
structure ShowsMatches (t : Table) : Prop where
  /-- There is one search text for each row, made from the same parts of every row. -/
  texts : t.index.entries = t.rows.map t.textSource.text
  /-- These parts stay what they are once there is a row. -/
  source : t.rows ≠ [] → ∀ command, (t.perform command).table.textSource = t.textSource
  /-- The visible offsets are those of the rows found. -/
  mem : ∀ offset, offset ∈ t.visible ↔ t.Finds offset
  /-- Without a query these are all rows. -/
  all : t.query = "" → ∀ offset, t.Finds offset ↔ offset < t.rows.length
  /-- No offset is visible twice. -/
  nodup : t.visible.Nodup
  /-- Each visible offset shows its row. -/
  rows : t.visibleRows.map some = t.visible.map (t.rows[·]?)
  /-- A table has sort columns when its options declare some. -/
  declared : t.sorting.isSome ↔ t.setup.options.sorting ≠ []
  /-- The order holds every offset once. -/
  order : ∀ s, t.sorting = some s → s.order.Perm (List.range t.rows.length)
  /-- The rows kept for a query are those of the order that it finds. -/
  found : ∀ s, t.sorting = some s → t.query ≠ "" →
    t.found = s.order.filter fun offset => t.Finds offset
  /-- With sort columns no visible row is greater than one after it. -/
  sorted : t.sorting.isSome → ∃ spec, t.active = some spec ∧
    t.visibleRows.Pairwise fun a b => spec.compare a b ≠ .gt
  /-- Without sort columns the visible rows come as they came in. -/
  insertion : t.sorting = none →
    t.visible = (List.range t.rows.length).filter fun offset => t.Finds offset

/-- **Every reachable table shows exactly the rows that its query finds, each once and in
order.** -/
theorem showsMatches_of_reachable (h : Reachable t) : ShowsMatches t where
  texts := by rw [h.arranged.index, SearchIndex.entries_ofRows]; rfl
  source := fun hrows command =>
    textSource_eq_of_prefix (setup_perform t command) (rows_prefix_perform t command) hrows
  mem := fun _ => h.arranged.mem_visible
  all := fun hquery _ => finds_iff_of_query_eq_empty hquery
  nodup := h.arranged.nodup_visible
  rows := h.arranged.map_some_visibleRows
  declared := by
    rw [← h.sortable.declared, sortState, Option.isSome_map]
  order := h.arranged.order
  found := by
    intro s hs hquery
    have hvisible := h.arranged.visible_eq
    rwa [visible, if_neg hquery, arrangement, hs] at hvisible
  sorted := by
    intro hsome
    obtain ⟨s, hs⟩ := Option.isSome_iff_exists.1 hsome
    obtain ⟨spec, hspec⟩ := Option.isSome_iff_exists.1
      (h.sortable.active s.columns s.active (by rw [sortState, hs]; rfl))
    have hactive : t.active = some spec := by rw [active, hs]; exact hspec
    exact ⟨spec, hactive, h.arranged.pairwise_visibleRows hactive⟩
  insertion := by
    intro hs
    rw [h.arranged.visible_eq, arrangement, hs]

/-- Films with an `a` in their search texts, found after a row has come in and the order has been
turned around. -/
theorem showsMatches_films : ∃ built, build films = .ok built ∧
    ShowsMatches
      ((((built.table.perform (.search " a ")).table.perform
        (.add [.object [("name", .string "Alien"), ("year", .null)]])).table.perform
        (.toggle "name")).table) := by
  obtain ⟨built, h⟩ := exists_build_films
  exact ⟨built, h, showsMatches_of_reachable (.perform _ (.perform _ (.perform _ (.build h))))⟩

end LiveTable.Table
