import LiveTable.Proofs.Table.Fresh

/-!
# Page by page

The pages of a table cut its visible rows into pieces: whoever turns the pages from the first to the
last sees every visible row once, in the order in which they are shown and with its place.

* `onPage size page l`: the part of a list on a page;
* `flatten_onPage`: the pages make up the list;
* `length_onPage`, `length_onPage_pos`: every page but the last is full, and none is empty;
* `Table.rowsOn t page`: the visible rows on a page;
* `Table.turn t k`: `t` after going to the pages with the numbers 1 to `k`, one after another;
* `goTo_number`, `goTo_eq_of_resolve_eq_none`: which page becomes the current one, if any;
* `Reachable.turn_succ`: turning the pages shows one after another;
* `TurnsPages t`: what turning the pages of `t` shows;
* `turnsPages_of_reachable`: it is so for every reachable table and every size of pages.
-/

namespace LiveTable.Table

/-! ### Lists in pages -/

section Pages

variable {α β : Type} {size page : Nat}

/-- The part of a list on a page of the given size. -/
def onPage (size page : Nat) (l : List α) : List α := (l.drop (page * size)).take size

theorem le_pageCount_mul (hsize : 0 < size) (total : Nat) :
    total ≤ pageCount total size * size := by
  by_contra hlt
  exact Nat.lt_irrefl _ ((lt_pageCount_iff hsize).2 (Nat.not_le.1 hlt))

/-- The first pages make up the beginning of the list. -/
theorem flatten_onPage_range (l : List α) (count : Nat) :
    ((List.range count).map fun page => onPage size page l).flatten = l.take (count * size) := by
  induction count with
  | zero => simp
  | succ count ih =>
    rw [List.range_succ, List.map_append, List.flatten_append, ih, Nat.succ_mul, List.take_add]
    simp [onPage]

/-- **The pages make up the list.** -/
theorem flatten_onPage (hsize : 0 < size) (l : List α) :
    ((List.range (pageCount l.length size)).map fun page => onPage size page l).flatten = l := by
  rw [flatten_onPage_range, List.take_of_length_le (le_pageCount_mul hsize l.length)]

/-- Every page but the last is full. -/
theorem length_onPage (hsize : 0 < size) (l : List α)
    (h : page + 1 < pageCount l.length size) : (onPage size page l).length = size := by
  rw [lt_pageCount_iff hsize, Nat.succ_mul] at h
  rw [onPage, List.length_take, List.length_drop]
  omega

/-- No page is empty. -/
theorem length_onPage_pos (hsize : 0 < size) (l : List α) (h : page < pageCount l.length size) :
    0 < (onPage size page l).length := by
  rw [lt_pageCount_iff hsize] at h
  rw [onPage, List.length_take, List.length_drop]
  omega

theorem onPage_mapIdx (f : Nat → α → β) (l : List α) :
    onPage size page (l.mapIdx f) = (onPage size page l).mapIdx fun i => f (page * size + i) := by
  unfold onPage
  refine List.ext_getElem (by simp) fun i _ _ => ?_
  simp only [List.getElem_take, List.getElem_drop, List.getElem_mapIdx]

theorem join_flatten (l : List (List String)) :
    String.join l.flatten = String.join (l.map String.join) := by
  induction l with
  | nil => rfl
  | cons parts l ih =>
    rw [List.flatten_cons, String.join_append, ih, List.map_cons, String.join_cons]

end Pages

variable {t : Table}

/-! ### Going to a page -/

theorem goTo_eq_of_resolve_eq_none {target : PageTarget}
    (h : target.resolve t.page t.pages = none) : t.goTo target = ⟨none, t, []⟩ := by
  rw [goTo, h, Option.filter_none]

/-- The table showing a page. -/
def showPage (t : Table) (page : Nat) : Table := { t.renderPage page with page }.renewLinks

theorem showPage_showPage (t : Table) (page other : Nat) :
    (t.showPage page).showPage other = t.showPage other := rfl

theorem Fresh.showPage_page (h : Fresh t) : t.showPage t.page = t := h.refresh_eq

/-- A page with a number is shown unless it is the current one already. -/
theorem goTo_number {k : Nat} (hk : k < t.pages) :
    t.goTo (.number (k + 1)) =
      if t.page = k then ⟨none, t, []⟩
      else ⟨some k, t.showPage k, [.page (t.showPage k).summary]⟩ := by
  have hresolve : (PageTarget.number (k + 1)).resolve t.page t.pages = some k := by
    simp [PageTarget.resolve, Option.filter, hk]
  unfold goTo
  rw [hresolve]
  by_cases hpage : t.page = k
  · simp [Option.filter, hpage]
  · simp [Option.filter, hpage, Ne.symm hpage, showPage]

theorem answer_goTo_number {k : Nat} (hk : k < t.pages) :
    (t.goTo (.number (k + 1))).answer = if t.page = k then none else some k := by
  rw [goTo_number hk]
  split <;> rfl

theorem Fresh.table_goTo_number (h : Fresh t) {k : Nat} (hk : k < t.pages) :
    (t.goTo (.number (k + 1))).table = t.showPage k := by
  rw [goTo_number hk]
  split
  · rename_i hpage
    rw [← hpage, h.showPage_page]
  · rfl

/-! ### Turning the pages -/

/-- The table after going to the pages with the numbers 1 to `k`, one after another. -/
def turn (t : Table) : Nat → Table
  | 0 => t
  | k + 1 => ((t.turn k).goTo (.number (k + 1))).table

theorem Reachable.turn (h : Reachable t) (k : Nat) : Reachable (t.turn k) := by
  induction k with
  | zero => exact h
  | succ k ih => exact ih.goTo _

/-- **Turning the pages shows one after another.** -/
theorem Reachable.turn_succ (h : Reachable t) {k : Nat} (hk : k < t.pages) :
    t.turn (k + 1) = t.showPage k := by
  induction k with
  | zero => exact h.fresh.table_goTo_number hk
  | succ k ih =>
    have hlast : t.turn (k + 1) = t.showPage k := ih (Nat.lt_of_succ_lt hk)
    have hfresh : Fresh (t.showPage k) := hlast ▸ (h.turn (k + 1)).fresh
    rw [Table.turn, hlast, hfresh.table_goTo_number hk, showPage_showPage]

/-! ### What the pages show -/

/-- The visible rows on a page. -/
def rowsOn (t : Table) (page : Nat) : List Value := onPage t.pageSize page t.visibleRows

/-- The markup of each visible row with its place, counted from one. -/
def pieces (t : Table) : List String := t.visibleRows.mapIdx fun i row => t.setup.view row (i + 1)

theorem Arranged.pageMarkup_eq_join (h : Arranged t) (page : Nat) :
    t.pageMarkup page = String.join (onPage t.pageSize page t.pieces) := by
  rw [h.pageMarkup_eq, placesOn, onPage]
  refine congrArg String.join (List.ext_getElem ?_ fun i hi hi' => ?_)
  · simp only [List.length_map, List.length_range', List.length_take, List.length_drop, pieces,
      List.length_mapIdx, h.length_visibleRows, Nat.succ_mul]
    omega
  · simp only [pieces, List.length_take, List.length_drop, List.length_mapIdx] at hi'
    simp only [List.getElem_map, List.getElem_range', Nat.one_mul, List.getElem_take,
      List.getElem_drop, pieces, List.getElem_mapIdx]
    rw [List.getD_eq_getElem?_getD, List.getElem?_eq_getElem (by omega), Option.getD_some]

theorem Reachable.rendered_turn (h : Reachable t) {k : Nat} (hk : k < t.pages) :
    (t.turn (k + 1)).rendered = String.join (onPage t.pageSize k t.pieces) := by
  rw [h.turn_succ hk, ← h.arranged.pageMarkup_eq_join]
  rfl

theorem Arranged.pages_eq (h : Arranged t) :
    t.pages = pageCount t.visibleRows.length t.pageSize := by
  rw [pages, h.length_visibleRows]

theorem Reachable.join_rendered_turn (h : Reachable t) :
    String.join ((List.range t.pages).map fun k => (t.turn (k + 1)).rendered) =
      String.join t.pieces := by
  have hlength : t.pieces.length = t.visibleRows.length := List.length_mapIdx
  calc String.join ((List.range t.pages).map fun k => (t.turn (k + 1)).rendered)
      = String.join
          ((List.range t.pages).map fun k => String.join (onPage t.pageSize k t.pieces)) := by
        refine congrArg String.join (List.map_congr_left fun k hk => ?_)
        exact h.rendered_turn (List.mem_range.1 hk)
    _ = String.join
          ((List.range t.pages).map fun k => onPage t.pageSize k t.pieces).flatten := by
        rw [join_flatten, List.map_map]
        rfl
    _ = String.join t.pieces := by
        rw [h.arranged.pages_eq, ← hlength, flatten_onPage h.fresh.pageSize]

/-- Whoever turns the pages of a table from the first to the last sees each visible row once. -/
structure TurnsPages (t : Table) : Prop where
  /-- One can go to any page but the current one. -/
  jump : ∀ k < t.pages, (t.goTo (.number (k + 1))).answer = if t.page = k then none else some k
  /-- So one can from the page before. -/
  next : ∀ k < t.pages,
    ((t.turn k).goTo (.number (k + 1))).answer = if (t.turn k).page = k then none else some k
  page : ∀ k < t.pages, (t.turn (k + 1)).page = k
  /-- A page shows its rows with their places among all visible ones, counted from one. -/
  rendered : ∀ k < t.pages, (t.turn (k + 1)).rendered =
    String.join ((t.rowsOn k).mapIdx fun i row => t.setup.view row (k * t.pageSize + i + 1))
  /-- All pages together show all visible rows with their places. -/
  whole : String.join ((List.range t.pages).map fun k => (t.turn (k + 1)).rendered) =
    String.join (t.visibleRows.mapIdx fun i row => t.setup.view row (i + 1))
  /-- The rows on the pages are the visible rows. -/
  rows : ((List.range t.pages).map t.rowsOn).flatten = t.visibleRows
  /-- Every page but the last is full. -/
  full : ∀ k, k + 1 < t.pages → (t.rowsOn k).length = t.pageSize
  /-- The last one is not empty. -/
  last : ∀ k, k + 1 = t.pages → 1 ≤ (t.rowsOn k).length ∧ (t.rowsOn k).length ≤ t.pageSize
  /-- There is no page with the number zero. -/
  zero : t.goTo (.number 0) = ⟨none, t, []⟩
  /-- There is no page after the last. -/
  beyond : ∀ k, t.pages < k → t.goTo (.number k) = ⟨none, t, []⟩
  onFirst : t.page = 0 → t.goTo .previous = ⟨none, t, []⟩
  onLast : t.pages ≤ t.page + 1 → t.goTo .next = ⟨none, t, []⟩

theorem Reachable.turnsPages (h : Reachable t) : TurnsPages t := by
  have hsize : 0 < t.pageSize := h.fresh.pageSize
  have hpages : t.pages = pageCount t.visibleRows.length t.pageSize := h.arranged.pages_eq
  exact {
    jump := fun k hk => answer_goTo_number hk
    next := by
      intro k hk
      have hturn : (t.turn k).pages = t.pages := by
        cases k with
        | zero => rfl
        | succ k => rw [h.turn_succ (Nat.lt_of_succ_lt hk)]; rfl
      exact answer_goTo_number (by rwa [hturn])
    page := fun k hk => by rw [h.turn_succ hk]; rfl
    rendered := by
      intro k hk
      rw [h.rendered_turn hk, pieces, onPage_mapIdx, rowsOn]
    whole := h.join_rendered_turn
    rows := by rw [hpages]; exact flatten_onPage hsize t.visibleRows
    full := fun k hk => length_onPage hsize _ (by rwa [← hpages])
    last := by
      intro k hk
      refine ⟨length_onPage_pos hsize _ (by omega), ?_⟩
      rw [rowsOn, onPage, List.length_take]
      exact Nat.min_le_left _ _
    zero := goTo_eq_of_resolve_eq_none rfl
    beyond := by
      intro k hk
      refine goTo_eq_of_resolve_eq_none ?_
      have hzero : k ≠ 0 := by omega
      have hbeyond : ¬k - 1 < t.pages := by omega
      simp [PageTarget.resolve, Option.filter, hzero, hbeyond]
    onFirst := by
      intro hpage
      refine goTo_eq_of_resolve_eq_none ?_
      rw [PageTarget.resolve, hpage]
      rfl
    onLast := by
      intro hpage
      refine goTo_eq_of_resolve_eq_none ?_
      simp [PageTarget.resolve, Option.filter, hpage] }

/-- The table with pages of another size shows the same rows. -/
theorem visibleRows_resize (t : Table) (size : Nat) :
    (t.resize size).table.visibleRows = t.visibleRows := by
  simp only [resize]
  split
  · rfl
  · split <;> rfl

theorem pageSize_resize {size : Nat} (hsize : 1 ≤ size) :
    (t.resize size).table.pageSize = size := by
  simp only [resize]
  split
  · exact (Eq.symm ‹_›)
  · rw [if_neg (by omega)]
    rfl

/-- **Whatever the size of pages, whoever turns them from the first to the last sees each visible
row once, in the order in which they are shown.** -/
theorem turnsPages_of_reachable (h : Reachable t) {size : Nat} (hsize : 1 ≤ size) :
    (t.resize size).table.pageSize = size ∧
      (t.resize size).table.visibleRows = t.visibleRows ∧ TurnsPages (t.resize size).table :=
  ⟨pageSize_resize hsize, visibleRows_resize t size, (h.resize size).turnsPages⟩

/-- The films found by a search, two on a page. -/
theorem turnsPages_films : ∃ built, build films = .ok built ∧ 1 ≤ 2 ∧
    let t := (built.table.search "a").table
    (t.resize 2).table.pageSize = 2 ∧ (t.resize 2).table.visibleRows = t.visibleRows ∧
      TurnsPages (t.resize 2).table := by
  obtain ⟨built, h⟩ := exists_build_films
  have hsize : 1 ≤ 2 := by decide
  exact ⟨built, h, hsize, turnsPages_of_reachable ((Reachable.build h).search "a") hsize⟩

end LiveTable.Table
