import LiveTable.Proofs.Table.Arranged

/-!
# Rows in batches

It does not matter how rows are cut into batches: what a table holds and shows is the same as if
they came in all at once. Only when streaming stops may differ, for that is decided batch by batch.

* `Table.running t`: `t` as if streaming had not been stopped;
* `Table.addAll t batches`: the table after the batches came in one after the other;
* `Sorting.arranged_extend_arranged`: offsets may be sorted before more of them come;
* `Arranged.renew_append_renew`: rows may be found, sorted and shown before more of them come;
* `Arranged.addAll_eq_add`, `build_rows`: batches are as good as all rows at once, and so are rows
  that are there from the start;
* `addAll_eq_of_reachable`: both, for every table that can be reached.
-/

namespace LiveTable.Table

/-- The table as if streaming had not been stopped. -/
def running (t : Table) : Table := { t with stopped := false }

/-- The table after batches came in one after the other. -/
def addAll (t : Table) (batches : List (List Value)) : Table :=
  batches.foldl (fun t batch => (t.add batch).table) t

/-! ### Sorting in between -/

namespace Sorting

/-- The offsets of new rows come last. -/
def extend (s : Sorting) (start count : Nat) : Sorting :=
  { s with order := s.order ++ List.range' start count }

theorem extend_extend (s : Sorting) (start m n : Nat) :
    (s.extend start m).extend (start + m) n = s.extend start (m + n) := by
  simp only [extend, List.append_assoc, List.range'_append_1]

/-- **Sorting some rows and then all of them is sorting all of them.** -/
theorem arranged_extend_arranged (s : Sorting) (rows more : List Value) (start count : Nat)
    (h : ∀ o ∈ s.order, o < rows.length) :
    ((s.arranged rows).extend start count).arranged (rows ++ more) =
      (s.extend start count).arranged (rows ++ more) := by
  cases hactive : s.active with
  | none => rw [arranged_of_active_eq_none hactive]
  | some spec =>
    simp only [arranged, extend, hactive, Option.elim_some]
    rw [← spec.arrange_append_rows rows more h, spec.arrange_arrange_append]

end Sorting

variable {t : Table}

/-! ### Rows come in twice -/

/-- All rows may be sorted before more of them come in and all are sorted again. -/
theorem Indexed.arrange_append_arrange (h : Indexed t) (rows more : List Value) :
    ((t.append rows).arrange.append more).arrange = (t.append (rows ++ more)).arrange := by
  have hindex := SearchIndex.extend_extend t.index t.setup.options.fields rows more
  have hsorting : (((t.sorting.map (·.extend t.rows.length rows.length)).map
        (·.arranged (t.rows ++ rows))).map (·.extend (t.rows ++ rows).length more.length)).map
        (·.arranged (t.rows ++ rows ++ more)) =
      (t.sorting.map (·.extend t.rows.length (rows ++ more).length)).map
        (·.arranged (t.rows ++ rows ++ more)) := by
    cases hs : t.sorting with
    | none => rfl
    | some s =>
      -- No offset is as large as the number of rows, so each is compared as it was before.
      have hlt : ∀ o ∈ (s.extend t.rows.length rows.length).order, o < (t.rows ++ rows).length :=
        fun o ho => (h.append rows).lt_of_mem (by rw [arrangement, Table.append, hs]; exact ho)
      simp only [Option.map_some]
      rw [Sorting.arranged_extend_arranged _ _ _ _ _ hlt, List.length_append, Sorting.extend_extend,
        List.length_append]
  calc ((t.append rows).arrange.append more).arrange
      = { t with
          rows := t.rows ++ rows ++ more
          index := (t.index.extend t.setup.options.fields rows).extend t.setup.options.fields more
          sorting := (((t.sorting.map (·.extend t.rows.length rows.length)).map
            (·.arranged (t.rows ++ rows))).map (·.extend (t.rows ++ rows).length more.length)).map
            (·.arranged (t.rows ++ rows ++ more)) } := rfl
    _ = (t.append (rows ++ more)).arrange := by
        rw [hindex, hsorting, List.append_assoc]
        rfl

/-- **Rows may be found, sorted and shown before more of them come in.** -/
theorem Arranged.renew_append_renew (h : Arranged t) (rows more : List Value) :
    ((t.append rows).renew.append more).renew = (t.append (rows ++ more)).renew := by
  have hrows : Arranged (t.append rows).renew := (h.toIndexed.append rows).renew h.idle
  have hidle : (t.append rows).renew = (t.append rows).arrange.settle := renew_eq_settle h.idle
  calc ((t.append rows).renew.append more).renew
      = ((t.append rows).renew.append more).arrange.settle := renew_eq_settle hrows.idle
    _ = ((t.append rows).arrange.settle.append more).arrange.settle := by rw [hidle]
    _ = ((t.append rows).arrange.append more).arrange.settle := rfl
    _ = (t.append (rows ++ more)).arrange.settle := by
        rw [h.toIndexed.arrange_append_arrange rows more]
    _ = (t.append (rows ++ more)).renew :=
        (renew_eq_settle (t := t.append (rows ++ more)) h.idle).symm

/-! ### Batches -/

theorem Arranged.running (h : Arranged t) : Arranged t.running :=
  ⟨⟨h.index, h.order⟩, h.sorted, h.found⟩

/-- What rows that come in make of a table does not depend on whether streaming has been stopped. -/
theorem Arranged.running_add (h : Arranged t) (hlook : t.setup.beforeAdd = none)
    (batch : List Value) :
    (t.add batch).table.running =
      if batch = [] then t.running else (t.running.append batch).renew := by
  have hrunning : (t.append batch).renew.running = (t.running.append batch).renew := by
    rw [renew_eq_settle (t := t.append batch) h.idle,
      renew_eq_settle (t := t.running.append batch) h.idle]
    rfl
  simp only [Table.add, receive, hlook, List.isEmpty_iff]
  split
  · rfl
  · rw [← hrunning]
    split <;> rfl

/-- Two batches are as good as one. -/
theorem Arranged.add_add (h : Arranged t) (hlook : t.setup.beforeAdd = none)
    (batch more : List Value) :
    ((t.add batch).table.add more).table.running = (t.add (batch ++ more)).table.running := by
  have hlook' : (t.add batch).table.setup.beforeAdd = none := by rw [setup_add, hlook]
  rw [(h.add batch).running_add hlook', h.running_add hlook, h.running_add hlook]
  by_cases hbatch : batch = []
  · rw [hbatch, if_pos rfl, List.nil_append]
  · by_cases hmore : more = []
    · rw [hmore, if_pos rfl, List.append_nil]
    · rw [if_neg hbatch, if_neg hmore, if_neg (List.append_ne_nil_of_left_ne_nil hbatch more),
        h.running.renew_append_renew]

theorem Arranged.addAll_eq_add (h : Arranged t) (hlook : t.setup.beforeAdd = none)
    (batches : List (List Value)) :
    (t.addAll batches).running = (t.add batches.flatten).table.running := by
  -- The first batch and the rest, as one batch by the induction, are two.
  induction batches generalizing t with
  | nil => rw [h.running_add hlook, List.flatten_nil, if_pos rfl, addAll, List.foldl_nil]
  | cons batch batches ih =>
    rw [List.flatten_cons, ← h.add_add hlook]
    exact ih (h.add batch) (by rw [setup_add, hlook])

theorem add_nil (hlook : t.setup.beforeAdd = none) : (t.add []).table = t := by
  simp only [add, receive, hlook, List.isEmpty_nil, if_pos]

/-- A table that is built with rows is built without any, and then they come in. -/
theorem build_rows (draft : Draft) (hlook : draft.beforeAdd = none) (rows : List Value) :
    (build { draft with rows }).map (·.table) =
      (build { draft with rows := [] }).map fun built => (built.table.add rows).table := by
  simp only [build, List.isEmpty_nil, if_pos]
  cases draft.options.validate with
  | error fault => rfl
  | ok valid =>
    cases draft.view with
    | none => rfl
    | some view =>
      cases draft.options.columns with
      | error fault => rfl
      | ok columns =>
        cases rows with
        | nil =>
          refine congrArg Except.ok (add_nil ?_).symm
          dsimp only
          rw [setup_applyFirst]
          exact hlook
        | cons row rows => rfl

/-- **It does not matter how rows are cut into batches, nor whether they are there from the
start.** Tables that are equal but for whether streaming has been stopped hold the same rows in the
same order, find and render the same ones, and show the same page, links and summary. -/
theorem addAll_eq_of_reachable :
    (∀ t, Reachable t → t.setup.beforeAdd = none → ∀ batches : List (List Value),
      (t.addAll batches).running = (t.add batches.flatten).table.running) ∧
    ∀ draft : Draft, draft.beforeAdd = none → ∀ rows : List Value,
      (build { draft with rows }).map (·.table) =
        (build { draft with rows := [] }).map fun built => (built.table.add rows).table :=
  ⟨fun _ h hlook batches => h.arranged.addAll_eq_add hlook batches,
    fun draft hlook rows => build_rows draft hlook rows⟩

theorem addAll_films :
    ∃ built, build { films with rows := [] } = .ok built ∧
      built.table.setup.beforeAdd = none ∧
      (built.table.addAll [films.rows.take 2, [], films.rows.drop 2]).running =
        (built.table.add films.rows).table.running ∧
      (build films).map (·.table) = .ok (built.table.add films.rows).table := by
  obtain ⟨built, hbuilt⟩ : ∃ built, build { films with rows := [] } = .ok built :=
    exists_build rfl rfl
  have hlook : built.table.setup.beforeAdd = none := by
    obtain ⟨view, columns, -, -, -, htable⟩ := build_eq_ok hbuilt
    rw [htable]
    exact congrArg (·.beforeAdd) (setup_applyFirst _)
  refine ⟨built, hbuilt, hlook, ?_, ?_⟩
  · exact addAll_eq_of_reachable.1 built.table (.build hbuilt) hlook _
  · exact (addAll_eq_of_reachable.2 films rfl films.rows).trans (by rw [hbuilt]; rfl)

end LiveTable.Table
