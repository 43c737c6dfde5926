import LiveTable.Table.Command

/-!
# Reachable tables

What holds of every table that building and then using it leads to.

* `Reachable t`: `t` is built from some draft and then used by commands, in any order;
* `perform_induction`: what each operation keeps is kept by every command;
* `build_eq`, `build_eq_ok`, `exists_build`: what a table is built as, and when;
* `Reachable.induction`: what holds of a blank table and is kept by every command holds of every
  reachable table.

The callbacks of a table may have a memory of their own. A reachable table may therefore have other
callbacks from one command to the next.
-/

namespace LiveTable.Table

/-- The table with other callbacks. -/
def withCallbacks (t : Table) (beforeAdd : Option (List Value → Option (List Value)))
    (stopsAfter : Added → Bool) : Table :=
  { t with setup := { t.setup with beforeAdd, stopsAfter } }

/-- Building a table and using it by commands leads to it. -/
inductive Reachable : Table → Prop where
  | build {draft : Draft} {built : Outcome Unit} :
      build draft = .ok built → Reachable built.table
  | perform {t : Table} (command : Command) :
      Reachable t → Reachable (t.perform command).table
  | withCallbacks {t : Table} (beforeAdd : Option (List Value → Option (List Value)))
      (stopsAfter : Added → Bool) :
      Reachable t → Reachable (t.withCallbacks beforeAdd stopsAfter)

section Operations

variable {t : Table}

theorem Reachable.add (h : Reachable t) (batch : List Value) : Reachable (t.add batch).table :=
  h.perform (.add batch)

theorem Reachable.search (h : Reachable t) (text : String) : Reachable (t.search text).table :=
  h.perform (.search text)

theorem Reachable.sort (h : Reachable t) (spec : SortSpec) : Reachable (t.sort spec).table :=
  h.perform (.sort spec)

theorem Reachable.goTo (h : Reachable t) (target : PageTarget) : Reachable (t.goTo target).table :=
  h.perform (.goTo target)

theorem Reachable.resize (h : Reachable t) (size : Nat) : Reachable (t.resize size).table :=
  h.perform (.resize size)

end Operations

/-! ### Commands -/

/-- A command leaves the table as it is or carries out one operation. -/
theorem perform_induction {P : Table → Prop} {t : Table} (command : Command) (stay : P t)
    (add : ∀ rows, command = .add rows → P (t.add rows).table)
    (search : ∀ text, P (t.search text).table) (sort : ∀ spec, P (t.sort spec).table)
    (toggle : ∀ field, P (t.toggle field).table) (goTo : ∀ target, P (t.goTo target).table)
    (resize : ∀ size, P (t.resize size).table) (stop : P t.stop) :
    P (t.perform command).table := by
  cases command with
  | add rows => exact add rows rfl
  | search text => exact search text
  | sort spec => exact sort spec
  | toggle field => exact toggle field
  | goTo target => exact goTo target
  | goToText text =>
    simp only [Table.perform]
    split
    · exact goTo _
    · exact stay
  | resize size => exact resize size
  | stop => exact stop
  | _ => exact stay

/-! ### Building -/

/-- The setup of a draft whose rows are written by a view. -/
def Draft.setup (draft : Draft) (view : RowView) : Setup :=
  ⟨draft.options, view, draft.beforeAdd, draft.stopsAfter⟩

/-- The table without rows that is built with a setup and sort columns. -/
def first (setup : Setup) (columns : List SortSpec) : Table :=
  (blank setup columns).applyFirst.table

/-- A table is built from valid options: its first sort column is applied, and its rows are added
if there are any. -/
theorem build_eq {draft : Draft} {built : Outcome Unit} (h : build draft = .ok built) :
    ∃ view columns,
      draft.options.validate = .ok () ∧ draft.view = some view ∧
        draft.options.columns = .ok columns ∧
        built =
          if draft.rows.isEmpty then (blank (draft.setup view) columns).applyFirst
          else ⟨(), ((first (draft.setup view) columns).add draft.rows).table,
            (blank (draft.setup view) columns).applyFirst.notices ++
              ((first (draft.setup view) columns).add draft.rows).notices⟩ := by
  simp only [build] at h
  cases hvalid : draft.options.validate with
  | error e => simp [hvalid, bind, Except.bind] at h
  | ok u =>
    cases hview : draft.view with
    | none => simp [hvalid, hview, bind, Except.bind] at h
    | some view =>
      cases hcolumns : draft.options.columns with
      | error e => simp [hvalid, hview, hcolumns, bind, Except.bind] at h
      | ok columns =>
        refine ⟨view, columns, rfl, rfl, rfl, ?_⟩
        simp only [hvalid, hview, hcolumns, bind, Except.bind, pure, Except.pure] at h
        split at h <;> cases h <;> simp_all [first, Draft.setup]

/-- The table that is built, apart from what is told on the way. -/
theorem build_eq_ok {draft : Draft} {built : Outcome Unit} (h : build draft = .ok built) :
    ∃ view columns,
      draft.options.validate = .ok () ∧ draft.view = some view ∧
        draft.options.columns = .ok columns ∧
        built.table =
          if draft.rows.isEmpty then first (draft.setup view) columns
          else ((first (draft.setup view) columns).add draft.rows).table := by
  obtain ⟨view, columns, hvalid, hview, hcolumns, rfl⟩ := build_eq h
  refine ⟨view, columns, hvalid, hview, hcolumns, ?_⟩
  split <;> rfl

theorem initialSize_pos {o : Options} (h : o.validate = .ok ()) : 0 < o.pages.initialSize := by
  simp only [Options.validate] at h
  split at h
  · simp [throw, throwThe, MonadExceptOf.throw, bind, Except.bind] at h
  · omega

/-- Valid options and a view are enough to build a table. -/
theorem exists_build {draft : Draft} {view : RowView} (hvalid : draft.options.validate = .ok ())
    (hview : draft.view = some view) : ∃ built, build draft = .ok built := by
  cases hcolumns : draft.options.columns with
  | error e =>
    simp only [Options.validate, hcolumns] at hvalid
    split at hvalid <;> cases hvalid
  | ok columns =>
    simp only [build, hvalid, hview, hcolumns, bind, Except.bind, pure, Except.pure]
    split <;> exact ⟨_, rfl⟩

/-- Applying the first sort column is a toggle. -/
theorem applyFirst_table (t : Table) :
    t.applyFirst.table = t ∨ ∃ field, t.applyFirst.table = (t.toggle field).table := by
  unfold applyFirst
  split
  · exact .inl rfl
  · exact .inr ⟨_, rfl⟩

/-- **What holds of a blank table and is kept by every command holds of every reachable table.** -/
theorem Reachable.induction {P : Table → Prop}
    (hblank : ∀ setup columns, setup.options.validate = .ok () →
      setup.options.columns = .ok columns → P (blank setup columns))
    (hperform : ∀ t command, P t → P (t.perform command).table)
    (hcallbacks : ∀ t beforeAdd stopsAfter, P t → P (t.withCallbacks beforeAdd stopsAfter))
    {t : Table} (h : Reachable t) : P t := by
  induction h with
  | @build draft built h =>
    obtain ⟨view, columns, hvalid, -, hcolumns, htable⟩ := build_eq_ok h
    have hb : P (blank (draft.setup view) columns) := hblank _ columns hvalid hcolumns
    have hfirst : P (first (draft.setup view) columns) := by
      rcases applyFirst_table (blank (draft.setup view) columns) with heq | ⟨field, heq⟩
      · rwa [first, heq]
      · rw [first, heq]
        exact hperform _ (.toggle field) hb
    rw [htable]
    split
    · exact hfirst
    · exact hperform _ (.add _) hfirst
  | perform command _ ih => exact hperform _ command ih
  | withCallbacks beforeAdd stopsAfter _ ih => exact hcallbacks _ beforeAdd stopsAfter ih

/-- Three films, to be sorted by year or by name. -/
def films : Draft where
  options := { Options.standard with sorting := ["year:desc:number", "name"] }
  view := some fun row place => toString place ++ ". " ++ (row.get "name").display ++ "\n"
  beforeAdd := none
  stopsAfter := fun event => event.total == 3
  rows :=
    [.object [("name", .string "Heat"), ("year", .int 1995)],
      .object [("name", .string "Ran"), ("year", .int 1985)],
      .object [("name", .string "Naked"), ("year", .string "1993")]]

theorem exists_build_films : ∃ built, build films = .ok built :=
  exists_build rfl rfl

end LiveTable.Table
