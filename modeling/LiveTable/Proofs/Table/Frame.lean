import LiveTable.Proofs.Table.Reachable

/-!
# What commands leave alone

No command changes the setup of a table, and only adding rows changes the rows: they come last.

* `Keeps t u`: `u` has the setup and the rows of `t`;
* `SameView t u`: `u` has the query, the page and the page size of `t`;
* `renew_eq_reorder`: what `Table.renew` changes at most;
* `keeps_search`, `keeps_sort`, …: what the operations other than `Table.add` keep;
* `visible_blank`, `first_keeps`: what a new table starts from;
* `setup_add`, `rows_add`, `answer_add`, `stopped_add`, `sameView_add`: what adding rows keeps,
  where they come and how many;
* `setup_perform`, `rows_prefix_perform`, `keeps_perform`: the same for commands;
* `stopped_perform`: no command lets streaming go on once it has been stopped.
-/

namespace LiveTable.Table

/-- `u` has the setup and the rows of `t`. -/
structure Keeps (t u : Table) : Prop where
  setup : u.setup = t.setup
  rows : u.rows = t.rows

/-- `u` shows the same page of the same search as `t`. -/
structure SameView (t u : Table) : Prop where
  query : u.query = t.query
  page : u.page = t.page
  pageSize : u.pageSize = t.pageSize

variable (t : Table)

/-! ### What sorting and searching change -/

/-- The table with another order of all rows and other rows found. -/
def reorder (t : Table) (order found : List Nat) : Table :=
  { t with sorting := t.sorting.map ({ · with order }), found }

/-- The table with all rows and what is found sorted by the active column. -/
def arrangeActive (t : Table) : Table :=
  match t.active with
  | some spec => t.arrangeBy spec
  | none => t

/-- The table with the current page rendered and linked. -/
def refresh (t : Table) : Table := (t.renderPage t.page).renewLinks

theorem reorder_arrangement (found : List Nat) :
    t.reorder t.arrangement found = { t with found } := by
  cases hs : t.sorting with
  | none => rw [reorder, hs, Option.map_none]
  | some s => rw [reorder, arrangement, hs, Option.map_some]

theorem arrangeBy_eq_reorder (spec : SortSpec) :
    ∃ order found, t.arrangeBy spec = t.reorder order found := by
  cases hs : t.sorting with
  | none =>
    have hsame : t.arrangeBy spec = t := by rw [arrangeBy, hs]
    exact ⟨t.arrangement, t.found, by rw [reorder_arrangement, hsame]⟩
  | some s =>
    refine ⟨spec.arrange t.rows s.order, spec.arrange t.rows t.found, ?_⟩
    rw [arrangeBy, reorder, hs, Option.map_some]

theorem arrangeActive_eq_reorder :
    ∃ order found, t.arrangeActive = t.reorder order found := by
  unfold arrangeActive
  split
  · exact t.arrangeBy_eq_reorder _
  · exact ⟨t.arrangement, t.found, by rw [reorder_arrangement]⟩

theorem renew_eq_refresh :
    t.renew = (if t.query = "" then t else t.findRows).arrangeActive.refresh := rfl

/-- **Renewing a table changes the order, what is found and what is made of them, and nothing
else.** -/
theorem renew_eq_reorder : ∃ order found, t.renew = (t.reorder order found).refresh := by
  -- Without a query nothing is looked for, and what is found stays.
  obtain ⟨found, hfound⟩ :
      ∃ found, (if t.query = "" then t else t.findRows) = { t with found } := by
    split
    · exact ⟨t.found, rfl⟩
    · exact ⟨_, rfl⟩
  obtain ⟨order, found', harrange⟩ := arrangeActive_eq_reorder { t with found }
  refine ⟨order, found', ?_⟩
  rw [t.renew_eq_refresh, hfound, harrange]
  rfl

theorem sameView_renew : SameView t t.renew := by
  obtain ⟨order, found, h⟩ := t.renew_eq_reorder
  rw [h]
  exact ⟨rfl, rfl, rfl⟩

theorem keeps_renew : Keeps t t.renew := by
  obtain ⟨order, found, h⟩ := t.renew_eq_reorder
  rw [h]
  exact ⟨rfl, rfl⟩

/-! ### Operations -/

@[simp] theorem setup_add (batch : List Value) : (t.add batch).table.setup = t.setup := by
  simp only [add]
  split
  · rfl
  · have hk : (t.append (t.receive batch).1).renew.setup = t.setup := (keeps_renew _).setup
    split <;> exact hk

/-- **The rows that come in come last.** -/
theorem rows_add (batch : List Value) :
    (t.add batch).table.rows = t.rows ++ (t.receive batch).1 := by
  simp only [add]
  split
  · rename_i hempty
    rw [List.isEmpty_iff.1 hempty, List.append_nil]
  · have hk : (t.append (t.receive batch).1).renew.rows = t.rows ++ (t.receive batch).1 :=
      (keeps_renew _).rows
    split <;> exact hk

theorem answer_add (batch : List Value) : (t.add batch).answer = (t.receive batch).1.length := by
  simp only [add]
  split
  · rename_i hempty
    rw [List.isEmpty_iff.1 hempty, List.length_nil]
  · rfl

/-- Rows that come in stop a table only if its owner says so. -/
theorem stopped_add (batch : List Value) (h : ∀ event, t.setup.stopsAfter event = false) :
    (t.add batch).table.stopped = t.stopped := by
  simp only [add]
  split
  · rfl
  · obtain ⟨order, found, hrenew⟩ := renew_eq_reorder (t.append (t.receive batch).1)
    have hsetup : (t.append (t.receive batch).1).renew.setup = t.setup := (keeps_renew _).setup
    rw [hsetup, h, hrenew]
    rfl

theorem sameView_add (batch : List Value) : SameView t (t.add batch).table := by
  simp only [add]
  split
  · exact ⟨rfl, rfl, rfl⟩
  · have hv := sameView_renew (t.append (t.receive batch).1)
    split <;> exact ⟨hv.query, hv.page, hv.pageSize⟩

theorem keeps_search (text : String) : Keeps t (t.search text).table := by
  simp only [search]
  split
  · exact ⟨rfl, rfl⟩
  · split <;> constructor <;> simp only [renewLinks, renderPage, findRows]

theorem keeps_sort (spec : SortSpec) : Keeps t (t.sort spec).table := by
  unfold sort
  split
  · exact ⟨rfl, rfl⟩
  · constructor <;> simp only [renderPage, arrangeBy]

theorem sameView_sort (spec : SortSpec) : SameView t (t.sort spec).table := by
  unfold sort
  split <;> exact ⟨rfl, rfl, rfl⟩

theorem keeps_toggle (field : String) : Keeps t (t.toggle field).table := by
  unfold toggle
  split
  · exact ⟨rfl, rfl⟩
  · constructor
    · dsimp only
      rw [(keeps_sort _ _).setup]
    · dsimp only
      rw [(keeps_sort _ _).rows]

theorem setup_applyFirst : t.applyFirst.table.setup = t.setup := by
  rcases applyFirst_table t with h | ⟨field, h⟩
  · rw [h]
  · rw [h, (keeps_toggle t field).setup]

/-- Sorting by a declared column has nothing to do with streaming. -/
theorem stopped_toggle (field : String) : (t.toggle field).table.stopped = t.stopped := by
  simp only [toggle, sort]
  split
  · rfl
  · simp only [renderPage, arrangeBy]

/-- A blank table shows nothing. -/
theorem visible_blank (setup : Setup) (columns : List SortSpec) :
    (blank setup columns).visible = [] := by
  simp only [blank, renewLinks, visible, arrangement, if_true]
  split
  · rename_i s hs
    split at hs <;> cases hs
    rfl
  · rfl

/-- A new table has its setup, no rows, and has not been stopped. -/
theorem first_keeps (setup : Setup) (columns : List SortSpec) :
    (first setup columns).setup = setup ∧ (first setup columns).rows = [] ∧
      (first setup columns).stopped = false := by
  rcases applyFirst_table (blank setup columns) with h | ⟨field, h⟩
  · rw [first, h]
    exact ⟨rfl, rfl, rfl⟩
  · have hkeeps := (blank setup columns).keeps_toggle field
    rw [first, h, hkeeps.setup, hkeeps.rows, stopped_toggle]
    exact ⟨rfl, rfl, rfl⟩

theorem keeps_goTo (target : PageTarget) : Keeps t (t.goTo target).table := by
  unfold goTo
  split
  · exact ⟨rfl, rfl⟩
  · constructor <;> simp only [renewLinks, renderPage]

theorem keeps_resize (size : Nat) : Keeps t (t.resize size).table := by
  simp only [resize]
  split
  · exact ⟨rfl, rfl⟩
  · split
    · exact ⟨rfl, rfl⟩
    · constructor <;> simp only [renewLinks, renderPage]

/-! ### Commands -/

@[simp] theorem setup_perform (command : Command) : (t.perform command).table.setup = t.setup :=
  perform_induction (P := (·.setup = t.setup)) command rfl (fun batch _ => setup_add t batch)
    (fun text => (keeps_search t text).setup) (fun spec => (keeps_sort t spec).setup)
    (fun field => (keeps_toggle t field).setup) (fun target => (keeps_goTo t target).setup)
    (fun size => (keeps_resize t size).setup) rfl

/-- **No command takes a row away or puts one before others.** -/
theorem rows_prefix_perform (command : Command) : t.rows <+: (t.perform command).table.rows := by
  have hrefl := List.prefix_refl t.rows
  refine perform_induction (P := (t.rows <+: ·.rows)) command hrefl (fun batch _ => ?_)
    (fun text => ?_) (fun spec => ?_) (fun field => ?_) (fun target => ?_) (fun size => ?_) hrefl
  · exact ⟨_, (rows_add t batch).symm⟩
  · simpa only [(keeps_search t text).rows] using hrefl
  · simpa only [(keeps_sort t spec).rows] using hrefl
  · simpa only [(keeps_toggle t field).rows] using hrefl
  · simpa only [(keeps_goTo t target).rows] using hrefl
  · simpa only [(keeps_resize t size).rows] using hrefl

theorem keeps_perform {command : Command} (h : ∀ rows, command ≠ .add rows) :
    Keeps t (t.perform command).table :=
  perform_induction command ⟨rfl, rfl⟩ (fun rows hadd => absurd hadd (h rows)) (keeps_search t)
    (keeps_sort t) (keeps_toggle t) (keeps_goTo t) (keeps_resize t) ⟨rfl, rfl⟩

/-! ### Streaming stays stopped -/

variable {t}

theorem stopped_add_of_stopped (h : t.stopped = true) (batch : List Value) :
    (t.add batch).table.stopped = true := by
  simp only [add]
  split
  · exact h
  · split
    · rfl
    · obtain ⟨order, found, hrenew⟩ := renew_eq_reorder (t.append (t.receive batch).1)
      rw [hrenew]
      exact h

theorem stopped_sort_of_stopped (h : t.stopped = true) (spec : SortSpec) :
    (t.sort spec).table.stopped = true := by
  unfold sort
  split <;> exact h

/-- **No command lets streaming go on once it has been stopped.** -/
theorem stopped_perform (h : t.stopped = true) (command : Command) :
    (t.perform command).table.stopped = true := by
  refine perform_induction (P := (·.stopped = true)) command h
    (fun batch _ => stopped_add_of_stopped h batch) (fun text => ?_) (stopped_sort_of_stopped h)
    (fun field => ?_) (fun target => ?_) (fun size => ?_) rfl
  · simp only [search]
    split
    · exact h
    · split <;> exact h
  · simp only [toggle]
    split
    · exact h
    · exact stopped_sort_of_stopped (by exact h) _
  · simp only [goTo]
    split <;> exact h
  · simp only [resize]
    split
    · exact h
    · split <;> exact h

end LiveTable.Table
