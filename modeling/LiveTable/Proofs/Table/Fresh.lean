import LiveTable.Proofs.Table.Visible
import Mathlib.Data.List.Perm.Subperm

/-!
# Fresh outputs

A table keeps the markup of its current page and the bar of page links. Both are what they would be
if they were made anew, after every operation, and the current page exists.

* `Fresh t`: the markup and the links of `t` belong to its current page, which exists;
* `fresh_renewLinks`: rendering the page and renewing the links makes both fresh;
* `Arranged.length_visible_le`: more rows never show fewer;
* `Reachable.fresh`: every reachable table is fresh;
* `Arranged.pageMarkup_eq`: the markup of a page is that of its rows with their places;
* `showsPage_of_reachable`: what every reachable table shows of its current page.
-/

namespace LiveTable.Table

variable {t u : Table}

/-! ### Pages -/

theorem lt_pageCount_iff {total size page : Nat} (hsize : 0 < size) :
    page < pageCount total size ↔ page * size < total := by
  rw [pageCount, if_neg (by omega), Nat.lt_iff_add_one_le, Nat.le_div_iff_mul_le hsize,
    Nat.succ_mul]
  omega

/-- More rows fill at least as many pages. -/
theorem pageCount_mono {total total' size : Nat} (h : total ≤ total') :
    pageCount total size ≤ pageCount total' size := by
  unfold pageCount
  split
  · exact Nat.le_refl 0
  · exact Nat.div_le_div_right (by omega)

/-- More rows with the same query never show fewer. -/
theorem Arranged.length_visible_le (ht : Arranged t) (hu : Arranged u)
    (hsetup : u.setup = t.setup) (hquery : u.query = t.query) (hrows : t.rows <+: u.rows) :
    t.visible.length ≤ u.visible.length := by
  refine (List.subperm_of_subset ht.nodup_visible fun offset hmem => ?_).length_le
  rw [ht.mem_visible] at hmem
  rw [hu.mem_visible]
  obtain ⟨row, hrow, hinfix⟩ := hmem
  have hne : t.rows ≠ [] := by
    rintro hnil
    rw [hnil] at hrow
    cases hrow
  have hsource : u.textSource = t.textSource := textSource_eq_of_prefix hsetup hrows hne
  obtain ⟨more, hmore⟩ := hrows
  refine ⟨row, ?_, ?_⟩
  · rw [← hmore, List.getElem?_append_left (List.getElem?_eq_some_iff.1 hrow).1, hrow]
  · rwa [hquery, hsource]

/-! ### Rendering and linking -/

/-- The markup and the links of a table belong to its current page, which exists. -/
structure Fresh (t : Table) : Prop where
  rendered : t.rendered = t.pageMarkup t.page
  links : t.links = pageLinks t.pages t.page t.setup.options.pages.span
  page : t.page = 0 ∨ t.page < t.pages
  pageSize : 0 < t.pageSize

/-- Rendering the current page and renewing the links makes both fresh. -/
theorem fresh_renewLinks (hpage : t.page = 0 ∨ t.page < t.pages) (hsize : 0 < t.pageSize) :
    Fresh (t.renderPage t.page).renewLinks :=
  ⟨rfl, rfl, hpage, hsize⟩

/-- What is fresh already is not changed by it. -/
theorem Fresh.refresh_eq (h : Fresh t) : t.refresh = t := by
  rw [refresh, renewLinks, renderPage, ← h.rendered]
  exact congrArg (fun links => { t with links }) h.links.symm

theorem fresh_renew (hpage : t.page = 0 ∨ t.page < t.renew.pages) (hsize : 0 < t.pageSize) :
    Fresh t.renew := by
  obtain ⟨order, found, h⟩ := t.renew_eq_reorder
  rw [h] at hpage ⊢
  exact fresh_renewLinks hpage hsize

/-! ### What each operation leaves fresh -/

theorem Fresh.add (h : Fresh t) (ha : Arranged t) (batch : List Value) :
    Fresh (t.add batch).table := by
  -- The page stays the same, so it must still exist: no visible row goes away.
  have hrows := ha.length_visible_le (ha.add batch) (setup_add t batch) (sameView_add t batch).query
    (by rw [rows_add]; exact List.prefix_append _ _)
  have hpages : t.pages ≤ (t.add batch).table.pages := by
    unfold pages
    rw [(sameView_add t batch).pageSize]
    exact pageCount_mono hrows
  simp only [Table.add] at hpages ⊢
  split at hpages
  · rename_i hempty
    rwa [if_pos hempty]
  · rename_i hempty
    rw [if_neg hempty]
    have hrenew : t.pages ≤ (t.append (t.receive batch).1).renew.pages := by
      split at hpages <;> exact hpages
    have hf : Fresh (t.append (t.receive batch).1).renew :=
      fresh_renew (h.page.imp_right fun hlt => Nat.lt_of_lt_of_le hlt hrenew) h.pageSize
    split
    · exact ⟨hf.rendered, hf.links, hf.page, hf.pageSize⟩
    · exact hf

theorem Fresh.search (h : Fresh t) (text : String) : Fresh (t.search text).table := by
  simp only [Table.search]
  split
  · exact h
  · split <;> exact fresh_renewLinks (.inl rfl) h.pageSize

/-- As long as as many rows are visible, the links stay fresh. -/
theorem Fresh.rearrange (h : Fresh t) (hvisible : u.visible.length = t.visible.length)
    (hview : SameView t u) (hsetup : u.setup = t.setup) (hlinks : u.links = t.links) :
    Fresh (u.renderPage u.page) := by
  have hpages : u.pages = t.pages := by rw [pages, pages, hvisible, hview.pageSize]
  refine ⟨rfl, ?_, ?_, ?_⟩
  · show u.links = pageLinks u.pages u.page u.setup.options.pages.span
    rw [hlinks, hpages, hview.page, hsetup, h.links]
  · show u.page = 0 ∨ u.page < u.pages
    rw [hpages, hview.page]
    exact h.page
  · show 0 < u.pageSize
    rw [hview.pageSize]
    exact h.pageSize

theorem Fresh.sort (h : Fresh t) (spec : SortSpec) : Fresh (t.sort spec).table := by
  cases hs : t.sorting with
  | none => simpa only [Table.sort, hs] using h
  | some s =>
    simp only [Table.sort, hs]
    -- The links are not renewed, and need not be: as many rows are visible as before.
    refine h.rearrange ?_ ⟨rfl, rfl, rfl⟩ rfl rfl
    simp only [arrangeBy, visible, arrangement, hs]
    by_cases hquery : t.query = "" <;> simp [hquery]

theorem Fresh.toggle (h : Fresh t) (field : String) : Fresh (t.toggle field).table := by
  simp only [Table.toggle]
  split
  · exact h
  · rename_i s spec heq
    obtain ⟨s', hs, hspec⟩ := Option.bind_eq_some_iff.1 heq
    obtain ⟨_, -, ⟨⟩⟩ := Option.map_eq_some_iff.1 hspec
    refine Fresh.sort ?_ spec
    obtain ⟨hrendered, hlinks, hpage, hsize⟩ := h
    simp only [pageMarkup, pages, visible, arrangement, hs] at hrendered hlinks hpage
    exact ⟨hrendered, hlinks, hpage, hsize⟩

theorem Fresh.goTo (h : Fresh t) (target : PageTarget) : Fresh (t.goTo target).table := by
  simp only [Table.goTo]
  split
  · exact h
  · rename_i page heq
    obtain ⟨hresolve, -⟩ := Option.filter_eq_some_iff.1 heq
    obtain ⟨-, hlt⟩ := Option.filter_eq_some_iff.1 hresolve
    exact ⟨rfl, rfl, .inr (of_decide_eq_true hlt), h.pageSize⟩

theorem Fresh.resize (h : Fresh t) (size : Nat) : Fresh (t.resize size).table := by
  simp only [Table.resize]
  split
  · exact h
  · split
    · exact h
    · exact ⟨rfl, rfl, .inl rfl, Nat.pos_of_ne_zero ‹_›⟩

theorem Fresh.perform (h : Fresh t) (ha : Arranged t) (command : Command) :
    Fresh (t.perform command).table :=
  perform_induction command h (fun rows _ => h.add ha rows) h.search h.sort h.toggle h.goTo
    h.resize ⟨h.rendered, h.links, h.page, h.pageSize⟩

theorem fresh_blank (setup : Setup) (columns : List SortSpec)
    (hsize : 0 < setup.options.pages.initialSize) : Fresh (blank setup columns) := by
  refine ⟨?_, rfl, .inl rfl, hsize⟩
  rw [pageMarkup, visible_blank, List.drop_nil, List.take_nil]
  rfl

/-- **The outputs of every reachable table are fresh.** -/
theorem Reachable.fresh (h : Reachable t) : Fresh t :=
  (h.induction (P := fun t => Arranged t ∧ Fresh t)
    (fun setup columns hvalid _ =>
      ⟨arranged_blank setup columns, fresh_blank setup columns (initialSize_pos hvalid)⟩)
    (fun _ command ht => ⟨ht.1.perform command, ht.2.perform ht.1 command⟩)
    (fun _ _ _ ht => ⟨⟨⟨ht.1.index, ht.1.order⟩, ht.1.sorted, ht.1.found⟩,
      ht.2.rendered, ht.2.links, ht.2.page, ht.2.pageSize⟩)).2

/-! ### The rows of a page -/

/-- The places of the rows on a page among the visible rows, counted from zero. -/
def placesOn (t : Table) (page : Nat) : List Nat :=
  List.range' (page * t.pageSize)
    (min ((page + 1) * t.pageSize) t.visible.length - page * t.pageSize)

theorem Arranged.length_visibleRows (h : Arranged t) : t.visibleRows.length = t.visible.length := by
  simpa using congrArg List.length h.map_some_visibleRows

theorem Arranged.getD_visibleRows (h : Arranged t) {i : Nat} (hi : i < t.visible.length) :
    t.visibleRows.getD i .null = (t.rows[t.visible[i]]?).getD .null := by
  have hi' : i < t.visibleRows.length := by rwa [h.length_visibleRows]
  have hrow := congrArg (·[i]?) h.map_some_visibleRows
  simp only [List.getElem?_map, List.getElem?_eq_getElem hi, List.getElem?_eq_getElem hi',
    Option.map_some, Option.some.injEq] at hrow
  rw [← hrow, List.getD_eq_getElem?_getD, List.getElem?_eq_getElem hi']

/-- **The markup of a page is that of its rows with their places, counted from one.** -/
theorem Arranged.pageMarkup_eq (h : Arranged t) (page : Nat) :
    t.pageMarkup page = String.join ((t.placesOn page).map fun i =>
      t.setup.view (t.visibleRows.getD i .null) (i + 1)) := by
  unfold pageMarkup placesOn
  refine congrArg String.join (List.ext_getElem ?_ fun i hi _ => ?_)
  · simp only [List.length_mapIdx, List.length_take, List.length_drop, List.length_map,
      List.length_range', Nat.succ_mul]
    omega
  · have hi' : page * t.pageSize + i < t.visible.length := by
      simp only [List.length_mapIdx, List.length_take, List.length_drop] at hi
      omega
    simp only [List.getElem_mapIdx, List.getElem_take, List.getElem_drop, List.getElem_map,
      List.getElem_range', Nat.one_mul, List.getElem?_toArray, h.getD_visibleRows hi']

/-- A table shows its current page: the markup, the links and the summary belong to the rows that
are visible now. -/
structure ShowsPage (t : Table) : Prop where
  /-- The markup is that of the visible rows on the page. -/
  rendered : t.rendered = String.join ((t.placesOn t.page).map fun i =>
    t.setup.view (t.visibleRows.getD i .null) (i + 1))
  /-- There is a visible row for each visible offset. -/
  length : t.visibleRows.length = t.visible.length
  /-- The links are those of the page. -/
  links : t.links = pageLinks t.pages t.page t.setup.options.pages.span
  pageSize : 1 ≤ t.pageSize
  /-- The page exists, or it is the first one. -/
  page : t.page = 0 ∨ t.page < t.pages
  /-- Without visible rows the summary is all zeros. -/
  none : t.visibleRows = [] → t.summary = ⟨0, 0, 0, 0⟩
  /-- With visible rows the summary names the places of those on the page, counted from one. -/
  some : t.visibleRows ≠ [] →
    1 ≤ t.summary.first ∧ t.summary.first ≤ t.summary.last ∧ t.summary.last ≤ t.summary.total ∧
      t.summary.total = t.visibleRows.length ∧ t.summary.page = t.page ∧
      (t.placesOn t.page).map (· + 1) =
        List.range' t.summary.first (t.summary.last + 1 - t.summary.first)

/-- The current page has a row when one is visible. -/
theorem Fresh.page_mul_lt (h : Fresh t) (hvisible : t.visible ≠ []) :
    t.page * t.pageSize < t.visible.length := by
  rcases h.page with hpage | hpage
  · rw [hpage, Nat.zero_mul]
    exact List.length_pos_of_ne_nil hvisible
  · exact (lt_pageCount_iff h.pageSize).1 hpage

/-- Without visible rows the first page is the current one. -/
theorem Fresh.page_eq_zero (h : Fresh t) (hvisible : t.visible = []) : t.page = 0 := by
  rcases h.page with hpage | hpage
  · exact hpage
  · have hlt := (lt_pageCount_iff h.pageSize).1 hpage
    rw [hvisible] at hlt
    exact absurd hlt (Nat.not_lt_zero _)

theorem Fresh.places_eq (h : Fresh t) (hvisible : t.visible ≠ []) :
    1 ≤ t.summary.first ∧ t.summary.first ≤ t.summary.last ∧
      (t.placesOn t.page).map (· + 1) =
        List.range' t.summary.first (t.summary.last + 1 - t.summary.first) := by
  have hlt := h.page_mul_lt hvisible
  have hsize := h.pageSize
  have htotal : t.visible.length ≠ 0 := by omega
  simp only [summary, Summary.of, if_neg htotal, placesOn]
  rw [Nat.mul_comm t.pageSize t.page, Nat.succ_mul]
  refine ⟨by omega, by omega, ?_⟩
  rw [show (fun i => i + 1) = (1 + ·) from funext fun i => Nat.add_comm i 1,
    List.map_add_range', Nat.add_comm 1]
  congr 1
  omega

/-- **Every reachable table shows its current page, and never a stale one.** -/
theorem showsPage_of_reachable (h : Reachable t) : ShowsPage t where
  rendered := by rw [h.fresh.rendered, h.arranged.pageMarkup_eq]
  length := h.arranged.length_visibleRows
  links := h.fresh.links
  pageSize := h.fresh.pageSize
  page := h.fresh.page
  none := by
    intro hrows
    have hvisible : t.visible = [] := by
      rw [← List.length_eq_zero_iff, ← h.arranged.length_visibleRows, hrows, List.length_nil]
    simp [summary, Summary.of, hvisible, h.fresh.page_eq_zero hvisible]
  some := by
    intro hrows
    have hvisible : t.visible ≠ [] := by
      rwa [← List.length_pos_iff, ← h.arranged.length_visibleRows, List.length_pos_iff]
    obtain ⟨hfirst, hlast, hplaces⟩ := h.fresh.places_eq hvisible
    exact ⟨hfirst, hlast, Nat.min_le_right _ _, h.arranged.length_visibleRows.symm, rfl, hplaces⟩

/-- The second page of the films, one film on each. -/
theorem showsPage_films : ∃ built, build films = .ok built ∧
    ShowsPage ((built.table.perform (.resize 1)).table.perform (.goTo .next)).table := by
  obtain ⟨built, h⟩ := exists_build_films
  exact ⟨built, h, showsPage_of_reachable (.perform _ (.perform _ (.build h)))⟩

end LiveTable.Table
