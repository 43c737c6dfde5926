import LiveTable.Proofs.Table.Frame
import LiveTable.Proofs.Table.Indexing
import LiveTable.Proofs.Table.RowOrder

/-!
# Arranged tables

A table keeps three things that follow from its rows, its query and its sort column: the search
index, the order of all rows and the rows found by the query. This module states how they belong
together and that every operation leaves them so.

* `Table.searched t`: the rows that the query of `t` finds, in the order in which they are shown;
* `Indexed t`: every row of `t` is indexed and stands somewhere in the order;
* `Arranged t`: moreover the order is sorted and the rows found are those of the query;
* `Table.arrange t`, `Table.settle t`: `t` with all rows sorted, and with all that follows from the
  rest made anew;
* `renew_eq_settle`, `Indexed.renew`: `Table.renew` does both, and what it makes is arranged;
* `Arranged.add`, `Arranged.search`, …: each operation leaves an arranged table arranged;
* `Reachable.arranged`: every reachable table is arranged.
-/

namespace LiveTable.Table

/-- The rows that the query of a table finds, in the order in which they are shown. -/
def searched (t : Table) : List Nat :=
  if t.query = "" then [] else t.index.search (Text.upper t.query) t.arrangement

/-- Every row is indexed and stands somewhere in the order. -/
structure Indexed (t : Table) : Prop where
  index : t.index = .ofRows t.setup.options.fields t.rows
  order : ∀ s, t.sorting = some s → s.order.Perm (List.range t.rows.length)

/-- Every row is indexed, all rows are in the order of the active column, and the rows found are
those of the query. -/
structure Arranged (t : Table) : Prop extends Indexed t where
  sorted : ∀ s spec, t.sorting = some s → s.active = some spec →
    s.order.Pairwise (spec.inOrder t.rows · ·)
  found : t.found = t.searched

variable {t : Table}

/-! ### What indexing gives -/

theorem Indexed.arrangement_perm (h : Indexed t) :
    t.arrangement.Perm (List.range t.rows.length) := by
  unfold arrangement
  split
  · exact h.order _ ‹_›
  · exact .refl _

theorem Indexed.lt_of_mem (h : Indexed t) {offset : Nat} (hmem : offset ∈ t.arrangement) :
    offset < t.rows.length :=
  List.mem_range.1 (h.arrangement_perm.mem_iff.1 hmem)

theorem Indexed.append (h : Indexed t) (rows : List Value) : Indexed (t.append rows) where
  index := by
    show t.index.extend t.setup.options.fields rows = _
    rw [h.index, SearchIndex.ofRows_extend]
    rfl
  order := by
    intro s hs
    obtain ⟨s₀, hs₀, rfl⟩ := Option.map_eq_some_iff.1 hs
    show (s₀.order ++ List.range' t.rows.length rows.length).Perm
      (List.range (t.rows ++ rows).length)
    rw [List.length_append, List.range_eq_range', ← List.range'_append_1, Nat.zero_add,
      ← List.range_eq_range']
    exact (h.order s₀ hs₀).append (.refl _)

/-! ### Sorting -/

/-- Rows may be looked for before or after sorting. -/
theorem search_arrange (index : SearchIndex) (query : String) (spec : SortSpec)
    (rows : List Value) (offsets : List Nat) :
    index.search query (spec.arrange rows offsets) =
      spec.arrange rows (index.search query offsets) := by
  rw [SearchIndex.search_eq_filter, SearchIndex.search_eq_filter, SortSpec.filter_arrange]

/-- The offsets of all rows, sorted by the active column. -/
def Sorting.arranged (s : Sorting) (rows : List Value) : Sorting :=
  { s with order := s.active.elim s.order fun spec => spec.arrange rows s.order }

theorem Sorting.arranged_of_active_eq_none {s : Sorting} (h : s.active = none)
    (rows : List Value) : s.arranged rows = s := by
  rw [arranged, h, Option.elim_none, ← h]

/-- The table with all rows in the order of the active column. -/
def arrange (t : Table) : Table := { t with sorting := t.sorting.map (·.arranged t.rows) }

theorem searched_arrange {s : Sorting} {spec : SortSpec} (hs : t.sorting = some s)
    (hspec : s.active = some spec) : t.arrange.searched = spec.arrange t.rows t.searched := by
  simp only [searched, arrangement, arrange, hs, Option.map_some, Sorting.arranged, hspec,
    Option.elim_some]
  split
  · exact (spec.arrange_nil t.rows).symm
  · exact search_arrange _ _ _ _ _

/-- **What is found may be sorted, or looked for among all rows once these are sorted.** -/
theorem arrangeBy_eq (hfound : t.found = t.searched) {spec : SortSpec}
    (hactive : t.active = some spec) :
    t.arrangeBy spec = { t.arrange with found := t.arrange.searched } := by
  obtain ⟨s, hs, hspec⟩ := Option.bind_eq_some_iff.1 hactive
  rw [searched_arrange hs hspec, ← hfound]
  simp only [arrangeBy, arrange, hs, Option.map_some, Sorting.arranged, hspec, Option.elim_some]

theorem arrange_eq_of_active_eq_none (hactive : t.active = none) : t.arrange = t := by
  cases hs : t.sorting with
  | none => rw [arrange, hs, Option.map_none, ← hs]
  | some s =>
    have hnone : s.active = none := by simpa only [active, hs, Option.bind_some] using hactive
    rw [arrange, hs, Option.map_some, Sorting.arranged_of_active_eq_none hnone, ← hs]

theorem arrangeActive_eq (hfound : t.found = t.searched) :
    t.arrangeActive = { t.arrange with found := t.arrange.searched } := by
  unfold arrangeActive
  -- Without an active column nothing is sorted, and there is no second order to look in.
  split
  · exact arrangeBy_eq hfound ‹_›
  · rw [arrange_eq_of_active_eq_none ‹_›, ← hfound]

/-- All rows are sorted and the query is looked for among them. -/
theorem Indexed.arrange (h : Indexed t) :
    Arranged { t.arrange with found := t.arrange.searched } where
  index := h.index
  order := by
    intro s hs
    obtain ⟨s₀, hs₀, rfl⟩ := Option.map_eq_some_iff.1 hs
    refine List.Perm.trans ?_ (h.order s₀ hs₀)
    dsimp only [Sorting.arranged]
    cases s₀.active with
    | none => exact .refl _
    | some spec => exact spec.arrange_perm t.rows s₀.order
  sorted := by
    intro s spec hs hspec
    obtain ⟨s₀, -, rfl⟩ := Option.map_eq_some_iff.1 hs
    have hactive : s₀.active = some spec := hspec
    dsimp only [Sorting.arranged]
    rw [hactive]
    exact spec.pairwise_arrange t.rows s₀.order
  found := rfl

/-! ### What follows from the rest -/

/-- The table with what follows from its rows, their order and the query. -/
def settle (t : Table) : Table := { t with found := t.searched }.refresh

theorem findRows_eq (hidle : t.query = "" → t.found = []) :
    (if t.query = "" then t else t.findRows) = { t with found := t.searched } := by
  split
  · rename_i hquery
    rw [searched, if_pos hquery, ← hidle hquery]
  · rename_i hquery
    rw [searched, if_neg hquery, findRows]

/-- **Renewing a table sorts all rows and makes anew what follows from them.** -/
theorem renew_eq_settle (hidle : t.query = "" → t.found = []) : t.renew = t.arrange.settle := by
  rw [renew_eq_refresh, findRows_eq hidle, arrangeActive_eq rfl]
  rfl

/-! ### What each operation leaves arranged -/

theorem Arranged.renderPage (h : Arranged t) (page : Nat) : Arranged (t.renderPage page) :=
  ⟨⟨h.index, h.order⟩, h.sorted, h.found⟩

theorem Arranged.renewLinks (h : Arranged t) : Arranged t.renewLinks :=
  ⟨⟨h.index, h.order⟩, h.sorted, h.found⟩

theorem Arranged.stop (h : Arranged t) : Arranged t.stop := ⟨⟨h.index, h.order⟩, h.sorted, h.found⟩

/-- **Looking for the query and sorting again arranges all rows.** -/
theorem Indexed.renew (h : Indexed t) (hidle : t.query = "" → t.found = []) :
    Arranged t.renew := by
  rw [renew_eq_settle hidle]
  exact (h.arrange.renderPage _).renewLinks

theorem Arranged.idle (h : Arranged t) (hquery : t.query = "") : t.found = [] := by
  rw [h.found, searched, if_pos hquery]

theorem Arranged.add (h : Arranged t) (batch : List Value) : Arranged (t.add batch).table := by
  have hrenew := fun rows => (h.toIndexed.append rows).renew h.idle
  simp only [Table.add]
  split
  · exact h
  · split
    · exact (hrenew _).stop
    · exact hrenew _

theorem Arranged.search (h : Arranged t) (text : String) : Arranged (t.search text).table := by
  simp only [Table.search]
  split
  · exact h
  · refine (Arranged.renderPage ?_ 0).renewLinks
    split
    · exact ⟨⟨h.index, h.order⟩, h.sorted, by simp [searched, *]⟩
    · exact ⟨⟨h.index, h.order⟩, h.sorted, by simp [searched, findRows, arrangement, *]⟩

theorem Arranged.sort (h : Arranged t) (spec : SortSpec) : Arranged (t.sort spec).table := by
  cases hs : t.sorting with
  | none => simpa [Table.sort, hs] using h
  | some s =>
    have hi : Indexed { t with sorting := some { s with active := some spec } } :=
      ⟨h.index, by rintro _ ⟨⟩; exact h.order s hs⟩
    have hfound := h.found
    simp only [searched, arrangement, hs] at hfound
    simp only [Table.sort, hs]
    refine Arranged.renderPage ?_ _
    rw [arrangeBy_eq hfound rfl]
    exact hi.arrange

/-- The directions that columns take next do not matter. -/
theorem Arranged.withColumns (h : Arranged t) {s : Sorting} (hs : t.sorting = some s)
    (columns : Dict String SortSpec) :
    Arranged { t with sorting := some { s with columns } } where
  index := h.index
  order := by rintro _ ⟨⟩; exact h.order s hs
  sorted := by rintro _ spec ⟨⟩ hspec; exact h.sorted s spec hs hspec
  found := by
    have hfound := h.found
    simpa only [searched, arrangement, hs] using hfound

theorem Arranged.toggle (h : Arranged t) (field : String) : Arranged (t.toggle field).table := by
  simp only [Table.toggle]
  split
  · exact h
  · rename_i s spec heq
    obtain ⟨s', hs, hspec⟩ := Option.bind_eq_some_iff.1 heq
    obtain ⟨_, -, ⟨⟩⟩ := Option.map_eq_some_iff.1 hspec
    exact (h.withColumns hs _).sort spec

theorem Arranged.goTo (h : Arranged t) (target : PageTarget) : Arranged (t.goTo target).table := by
  simp only [Table.goTo]
  split
  · exact h
  · exact ⟨⟨h.index, h.order⟩, h.sorted, h.found⟩

theorem Arranged.resize (h : Arranged t) (size : Nat) : Arranged (t.resize size).table := by
  simp only [Table.resize]
  split
  · exact h
  · split
    · exact h
    · exact ⟨⟨h.index, h.order⟩, h.sorted, h.found⟩

theorem Arranged.perform (h : Arranged t) (command : Command) :
    Arranged (t.perform command).table :=
  perform_induction command h (fun rows _ => h.add rows) h.search h.sort h.toggle h.goTo h.resize
    h.stop

theorem arranged_blank (setup : Setup) (columns : List SortSpec) :
    Arranged (blank setup columns) := by
  refine Arranged.renewLinks ⟨⟨rfl, ?_⟩, ?_, rfl⟩
  · intro s hs
    dsimp only at hs
    split at hs
    · cases hs
    · cases hs
      exact .refl _
  · intro s spec hs hactive
    dsimp only at hs
    split at hs
    · cases hs
    · cases hs
      cases hactive

/-- **Every reachable table is arranged.** -/
theorem Reachable.arranged (h : Reachable t) : Arranged t :=
  h.induction (fun setup columns _ _ => arranged_blank setup columns)
    (fun _ command ht => ht.perform command)
    (fun _ _ _ ht => ⟨⟨ht.index, ht.order⟩, ht.sorted, ht.found⟩)

end LiveTable.Table
