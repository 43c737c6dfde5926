import LiveTable.Proofs.Table.Batches

/-!
# Tables apart from streaming

How many rows are fetched at once and whether streaming has been stopped matters to a loader only.
What a table holds and shows does not depend on it.

* `Table.unstreamed t`: `t` as if there were nothing to stream;
* `unstreamed_toggle`, `unstreamed_search`, `unstreamed_goTo`, `unstreamed_add`: what an operation
  does to the rest of a table;
* `build_unstreamed`: what building with another number of rows to fetch makes of it.
-/

namespace LiveTable.Table

/-- The table as if there were nothing to stream. -/
def unstreamed (t : Table) : Table :=
  { t with
    setup := { t.setup with options := { t.setup.options with fetchLimit := none } }
    stopped := false }

variable (t : Table)

theorem unstreamed_running : t.running.unstreamed = t.unstreamed := rfl

@[simp] theorem query_unstreamed : t.unstreamed.query = t.query := rfl

@[simp] theorem sorting_unstreamed : t.unstreamed.sorting = t.sorting := rfl

@[simp] theorem active_unstreamed : t.unstreamed.active = t.active := rfl

@[simp] theorem page_unstreamed : t.unstreamed.page = t.page := rfl

@[simp] theorem pages_unstreamed : t.unstreamed.pages = t.pages := rfl

/-! ### Operations -/

theorem unstreamed_arrangeBy (spec : SortSpec) :
    t.unstreamed.arrangeBy spec = (t.arrangeBy spec).unstreamed := by
  unfold arrangeBy
  rw [sorting_unstreamed]
  split <;> rfl

theorem unstreamed_renew : t.unstreamed.renew = t.renew.unstreamed := by
  have hfind : (if t.unstreamed.query = "" then t.unstreamed else t.unstreamed.findRows) =
      (if t.query = "" then t else t.findRows).unstreamed := by
    rw [query_unstreamed]
    split <;> rfl
  have hactive : ∀ u : Table, u.unstreamed.arrangeActive = u.arrangeActive.unstreamed := by
    intro u
    unfold arrangeActive
    rw [active_unstreamed]
    split
    · exact u.unstreamed_arrangeBy _
    · rfl
  rw [renew_eq_refresh, renew_eq_refresh, hfind, hactive]
  rfl

theorem unstreamed_add (batch : List Value) :
    (t.unstreamed.add batch).table.unstreamed = (t.add batch).table.unstreamed := by
  have hreceive : t.unstreamed.receive batch = t.receive batch := rfl
  have hrenew : (t.unstreamed.append (t.receive batch).1).renew =
      (t.append (t.receive batch).1).renew.unstreamed :=
    (t.append (t.receive batch).1).unstreamed_renew
  simp only [add, hreceive, hrenew]
  split
  · rfl
  · -- Whether streaming stops now is decided alike, and does not matter.
    split <;> split <;> rfl

theorem unstreamed_toggle (field : String) : t.unstreamed.toggle field =
    { t.toggle field with table := (t.toggle field).table.unstreamed } := by
  cases hs : t.sorting with
  | none => simp only [toggle, unstreamed, hs, Option.bind_none]
  | some s =>
    cases hspec : s.columns.get? field with
    | none => simp only [toggle, unstreamed, hs, hspec, Option.bind_some, Option.map_none]
    | some spec =>
      simp only [toggle, unstreamed, hs, hspec, Option.bind_some, Option.map_some]
      rfl

theorem unstreamed_search (text : String) : t.unstreamed.search text =
    { t.search text with table := (t.search text).table.unstreamed } := by
  simp only [search, query_unstreamed]
  split
  · rfl
  · split <;> rfl

theorem unstreamed_goTo (target : PageTarget) : t.unstreamed.goTo target =
    { t.goTo target with table := (t.goTo target).table.unstreamed } := by
  have hpage : (target.resolve t.unstreamed.page t.unstreamed.pages).filter
      (· ≠ t.unstreamed.page) = (target.resolve t.page t.pages).filter (· ≠ t.page) := rfl
  unfold goTo
  rw [hpage]
  cases (target.resolve t.page t.pages).filter (· ≠ t.page) <;> rfl

theorem table_applyFirst_unstreamed :
    t.unstreamed.applyFirst.table = t.applyFirst.table.unstreamed := by
  simp only [applyFirst, sorting_unstreamed]
  split
  · rfl
  · rw [unstreamed_toggle]

/-! ### Building -/

/-- **Apart from streaming, the number of rows to fetch at once makes no difference to a new
table.** -/
theorem build_unstreamed (draft : Draft) (limit : Option Nat) :
    (build { draft with
        options := { draft.options with fetchLimit := limit }, rows := [] }).map
        (·.table.unstreamed) =
      (build { draft with rows := [] }).map (·.table.unstreamed) := by
  have hvalidate : { draft.options with fetchLimit := limit }.validate = draft.options.validate :=
    rfl
  have hcolumns : { draft.options with fetchLimit := limit }.columns = draft.options.columns := rfl
  simp only [build, hvalidate, hcolumns, List.isEmpty_nil, if_pos]
  cases draft.options.validate with
  | error fault => rfl
  | ok valid =>
    cases draft.view with
    | none => rfl
    | some view =>
      cases draft.options.columns with
      | error fault => rfl
      | ok columns =>
        have hblank : (blank ⟨{ draft.options with fetchLimit := limit }, view, draft.beforeAdd,
              draft.stopsAfter⟩ columns).unstreamed =
            (blank ⟨draft.options, view, draft.beforeAdd,
              draft.stopsAfter⟩ columns).unstreamed := rfl
        have hfirst := congrArg (fun t => t.applyFirst.table) hblank
        rw [table_applyFirst_unstreamed, table_applyFirst_unstreamed] at hfirst
        exact congrArg Except.ok hfirst

end LiveTable.Table
