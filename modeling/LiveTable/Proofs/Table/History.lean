import LiveTable.Proofs.Table.Notices
import LiveTable.Proofs.Table.RowOrder
import Mathlib.Algebra.Ring.Nat

/-!
# Histories of tables

A table tells its owner of rows that come in and of the page that it shows. Whoever listens from the
start knows at every moment how many rows there are and which of them are shown, though sorting is
never told: it shows the same number of rows on the same page.

* `Use`, `History start uses t`: commands given to a table one after another, and where they lead;
* `Reachable.exists_history`: they lead to every reachable table;
* `Outcome.Reports o t`: the outcome `o` of an operation on `t` tells what has changed;
* `reports_add`, `reports_search`, …, `reports_perform`: the outcomes of all operations do;
* `InSync t notices`: whoever heard the notices knows the page and the number of rows of `t`;
* `Outcome.Reports.inSync`: such knowledge is kept by an outcome that reports;
* `Outcome.TellsRows o rows`: the rows that `o` tells of are those that came in after `rows`;
* `inSync_of_history`: listeners know all this after any commands.
-/

namespace LiveTable.Table

/-! ### Histories -/

/-- A command and the table that it was given to. -/
structure Use where
  table : Table
  command : Command

/-- What came of the command. -/
def Use.outcome (use : Use) : Outcome Reply := use.table.perform use.command

/-- Commands given to a table, one after another, lead to another one. It may have other callbacks
from one command to the next. -/
inductive History (start : Table) : List Use → Table → Prop where
  | start : History start [] start
  | use {uses : List Use} {t : Table} (command : Command) :
      History start uses t → History start (uses ++ [⟨t, command⟩]) (t.perform command).table
  | withCallbacks {uses : List Use} {t : Table}
      (beforeAdd : Option (List Value → Option (List Value))) (stopsAfter : Added → Bool) :
      History start uses t → History start uses (t.withCallbacks beforeAdd stopsAfter)

theorem History.reachable {start t : Table} {uses : List Use} (h : History start uses t)
    (hstart : Reachable start) : Reachable t := by
  induction h with
  | start => exact hstart
  | use command _ ih => exact ih.perform command
  | withCallbacks beforeAdd stopsAfter _ ih => exact ih.withCallbacks beforeAdd stopsAfter

/-- Every reachable table has a history since it was built. -/
theorem Reachable.exists_history {t : Table} (h : Reachable t) :
    ∃ draft built uses, Table.build draft = .ok built ∧ History built.table uses t := by
  induction h with
  | build hbuilt => exact ⟨_, _, [], hbuilt, .start⟩
  | perform command _ ih =>
    obtain ⟨draft, built, uses, hbuilt, h⟩ := ih
    exact ⟨draft, built, _, hbuilt, h.use command⟩
  | withCallbacks beforeAdd stopsAfter _ ih =>
    obtain ⟨draft, built, uses, hbuilt, h⟩ := ih
    exact ⟨draft, built, uses, hbuilt, h.withCallbacks beforeAdd stopsAfter⟩

/-! ### What notices tell -/

/-- The page that a notice tells of. -/
def Notice.page? : Notice → Option Summary
  | page summary => some summary
  | _ => none

/-- The rows that a notice tells of. -/
def Notice.added? : Notice → Option Added
  | added event => some event
  | _ => none

/-- The page told of last. -/
def lastPage? (notices : List Notice) : Option Summary := (notices.filterMap Notice.page?).getLast?

/-- The number of rows told to have come in, all in all. -/
def rowsTold (notices : List Notice) : Nat :=
  ((notices.filterMap Notice.added?).map Added.added).sum

theorem rowsTold_append (a b : List Notice) : rowsTold (a ++ b) = rowsTold a + rowsTold b := by
  simp [rowsTold]

theorem lastPage?_append_page (notices : List Notice) (summary : Summary) :
    lastPage? (notices ++ [.page summary]) = some summary := by
  simp [lastPage?, Notice.page?]

section Quiet

variable {notices more : List Notice}

theorem Quiet.filterMap_page? (h : Quiet more) : more.filterMap Notice.page? = [] := by
  refine List.filterMap_eq_nil_iff.2 fun notice hmem => ?_
  obtain ⟨size, rfl⟩ := h notice hmem
  rfl

theorem Quiet.filterMap_added? (h : Quiet more) : more.filterMap Notice.added? = [] := by
  refine List.filterMap_eq_nil_iff.2 fun notice hmem => ?_
  obtain ⟨size, rfl⟩ := h notice hmem
  rfl

theorem Quiet.lastPage?_append (h : Quiet more) (notices : List Notice) :
    lastPage? (notices ++ more) = lastPage? notices := by
  rw [lastPage?, List.filterMap_append, h.filterMap_page?, List.append_nil, lastPage?]

theorem Quiet.rowsTold_eq (h : Quiet more) : rowsTold more = 0 := by
  rw [rowsTold, h.filterMap_added?, List.map_nil, List.sum_nil]

theorem Quiet.not_mem_added (h : Quiet more) (event : Added) : .added event ∉ more := by
  intro hmem
  obtain ⟨size, hsize⟩ := h _ hmem
  cases hsize

end Quiet

/-! ### Outcomes that report -/

/-- The outcome of an operation on a table tells what has changed: nothing that a listener knows
of, or the page shown, or rows that came in and then the page. -/
inductive Outcome.Reports {α : Type} (o : Outcome α) (t : Table) : Prop where
  | nothing (rows : o.table.rows = t.rows) (query : o.table.query = t.query)
      (summary : o.table.summary = t.summary) (quiet : Quiet o.notices)
  | page (rows : o.table.rows = t.rows) (notices : o.notices = [.page o.table.summary])
  | rows (told : List Notice) (came : List Value) (quiet : Quiet told)
      (rows : o.table.rows = t.rows ++ came)
      (notices : o.notices = told ++
        [.added ⟨came.length, o.table.rows.length, o.table.visible.length⟩,
          .page o.table.summary])

theorem Outcome.Reports.map {α β : Type} {o : Outcome α} {t : Table} (h : o.Reports t)
    (f : α → β) : (o.map f).Reports t := by
  cases h with
  | nothing rows query summary quiet => exact .nothing rows query summary quiet
  | page rows notices => exact .page rows notices
  | rows told came quiet rows notices => exact .rows told came quiet rows notices

/-- What is told of a table is told of any other one that shows the same of its rows. -/
theorem Outcome.Reports.of_same {α : Type} {o : Outcome α} {t u : Table} (h : o.Reports u)
    (hrows : u.rows = t.rows) (hquery : u.query = t.query) (hsummary : u.summary = t.summary) :
    o.Reports t := by
  cases h with
  | nothing rows query summary quiet =>
    exact .nothing (rows.trans hrows) (query.trans hquery) (summary.trans hsummary) quiet
  | page rows notices => exact .page (rows.trans hrows) notices
  | rows told came quiet rows notices =>
    exact .rows told came quiet (rows.trans (by rw [hrows])) notices

variable (t : Table)

theorem reports_idle {α : Type} (answer : α) : (⟨answer, t, []⟩ : Outcome α).Reports t :=
  .nothing rfl rfl rfl quiet_nil

theorem reports_add (batch : List Value) : (t.add batch).Reports t := by
  rcases t.add_cases batch with h | ⟨count, u, -, -, h⟩
  · rw [h]
    exact .nothing rfl rfl rfl (t.quiet_receive batch)
  · have hrows := t.rows_add batch
    have hcount := t.answer_add batch
    rw [h] at hrows hcount ⊢
    exact .rows _ _ (t.quiet_receive batch) hrows (by rw [← hcount])

theorem reports_search (text : String) : (t.search text).Reports t := by
  have hrows := (keeps_search t text).rows
  rcases t.search_cases text with h | ⟨u, -, h⟩ <;> rw [h] at hrows ⊢
  · exact reports_idle t false
  · exact .page hrows rfl

/-- As many rows are visible after sorting as before. -/
theorem length_visible_sort (spec : SortSpec) :
    (t.sort spec).table.visible.length = t.visible.length := by
  cases hs : t.sorting with
  | none => simp only [sort, hs]
  | some s =>
    simp only [sort, hs, arrangeBy, renderPage, visible, arrangement]
    split <;> rw [SortSpec.length_arrange]

/-- What is shown of a table depends on what its owner sees of it. -/
theorem summary_eq_of_sameView {t u : Table} (h : SameView t u)
    (hvisible : u.visible.length = t.visible.length) : u.summary = t.summary := by
  rw [summary, summary, h.page, h.pageSize, hvisible]

/-- Sorting need not be told. -/
theorem reports_sort (spec : SortSpec) : (t.sort spec).Reports t := by
  have hview := t.sameView_sort spec
  refine .nothing (keeps_sort t spec).rows hview.query
    (summary_eq_of_sameView hview (t.length_visible_sort spec)) ?_
  rcases t.sort_cases spec with h | ⟨u, h⟩ <;> rw [h] <;> exact quiet_nil

theorem reports_toggle (field : String) : (t.toggle field).Reports t := by
  cases hs : t.sorting with
  | none =>
    simp only [toggle, hs, Option.bind_none]
    exact reports_idle t _
  | some s =>
    cases hspec : s.columns.get? field with
    | none =>
      simp only [toggle, hs, hspec, Option.bind_some, Option.map_none]
      exact reports_idle t _
    | some spec =>
      simp only [toggle, hs, hspec, Option.bind_some, Option.map_some]
      -- Turning the direction around shows nothing else, and then the table is sorted.
      let turned : Table := { t with sorting := some { s with
        columns := s.columns.insert field { spec with direction := spec.direction.flip } } }
      have hsummary : turned.summary = t.summary := by
        simp only [turned, summary, visible, arrangement, hs]
      have hsort : (turned.sort spec).Reports t :=
        (reports_sort turned spec).of_same rfl rfl hsummary
      exact hsort.map fun _ => Except.ok spec

theorem reports_goTo (target : PageTarget) : (t.goTo target).Reports t := by
  have hrows := (keeps_goTo t target).rows
  rcases t.goTo_cases target with h | ⟨page, u, -, h⟩ <;> rw [h] at hrows ⊢
  · exact reports_idle t none
  · exact .page hrows rfl

theorem reports_resize (size : Nat) : (t.resize size).Reports t := by
  have hrows := (keeps_resize t size).rows
  rcases t.resize_cases size with h | h | ⟨u, -, h⟩ <;> rw [h] at hrows ⊢
  · exact reports_idle t _
  · exact reports_idle t _
  · exact .page hrows rfl

/-- **Every command tells what it has changed.** -/
theorem reports_perform (command : Command) : (t.perform command).Reports t := by
  cases command with
  | add rows => exact (reports_add t rows).map _
  | search text => exact (reports_search t text).map _
  | sort spec => exact (reports_sort t spec).map _
  | toggle field => exact (reports_toggle t field).map _
  | goTo target => exact (reports_goTo t target).map _
  | goToText text =>
    simp only [perform]
    split
    · exact (reports_goTo t _).map _
    · exact reports_idle t _
  | resize size => exact (reports_resize t size).map _
  | stop => exact .nothing rfl rfl rfl quiet_nil
  | _ => exact reports_idle t _

/-! ### What a listener knows -/

/-- Whoever heard the notices knows which page a table shows and how many rows it holds. -/
structure InSync (t : Table) (notices : List Notice) : Prop where
  /-- The page told of last is the one shown. -/
  page : ∀ summary, lastPage? notices = some summary → summary = t.summary
  /-- As long as no page has been told of, there is nothing to show and nothing is searched for. -/
  blank : lastPage? notices = none → t.rows = [] ∧ t.query = "" ∧ t.summary = ⟨0, 0, 0, 0⟩
  /-- All rows have been told of. -/
  rows : rowsTold notices = t.rows.length

/-- The rows that an outcome tells of are those that came in after the given ones, and the numbers
told are those of the table reached. -/
def Outcome.TellsRows {α : Type} (o : Outcome α) (rows : List Value) : Prop :=
  ∀ event, .added event ∈ o.notices → ∃ came, o.table.rows = rows ++ came ∧
    event = ⟨came.length, o.table.rows.length, o.table.visible.length⟩

variable {t} {α : Type} {o : Outcome α} {notices : List Notice}

/-- **Whoever knows a table and hears what an operation tells knows the table afterwards.** -/
theorem Outcome.Reports.inSync (h : o.Reports t) (hsync : InSync t notices) :
    InSync o.table (notices ++ o.notices) := by
  cases h with
  | nothing rows query summary quiet =>
    refine ⟨?_, ?_, ?_⟩
    · rw [quiet.lastPage?_append, summary]
      exact hsync.page
    · rw [quiet.lastPage?_append, rows, query, summary]
      exact hsync.blank
    · rw [rowsTold_append, quiet.rowsTold_eq, rows]
      exact hsync.rows
  | page rows hnotices =>
    have hlast := lastPage?_append_page notices o.table.summary
    rw [hnotices]
    refine ⟨?_, ?_, ?_⟩
    · rw [hlast]
      rintro summary ⟨⟩
      rfl
    · rw [hlast]
      exact nofun
    · rw [rowsTold_append, rows, ← hsync.rows]
      rfl
  | rows told came quiet rows hnotices =>
    have hlast := lastPage?_append_page
      (notices ++ (told ++ [.added ⟨came.length, o.table.rows.length, o.table.visible.length⟩]))
      o.table.summary
    simp only [List.append_assoc, List.cons_append, List.nil_append] at hlast
    rw [hnotices]
    refine ⟨?_, ?_, ?_⟩
    · rw [hlast]
      rintro summary ⟨⟩
      rfl
    · rw [hlast]
      exact nofun
    · have htold : rowsTold [.added ⟨came.length, o.table.rows.length, o.table.visible.length⟩,
          .page o.table.summary] = came.length := rfl
      rw [rowsTold_append, rowsTold_append, quiet.rowsTold_eq, htold, hsync.rows, rows,
        List.length_append, Nat.zero_add]

theorem Outcome.Reports.tellsRows (h : o.Reports t) : o.TellsRows t.rows := by
  intro event hevent
  cases h with
  | nothing rows query summary quiet => exact absurd hevent (quiet.not_mem_added event)
  | page rows notices =>
    rw [notices] at hevent
    simp at hevent
  | rows told came quiet rows notices =>
    rw [notices] at hevent
    rcases List.mem_append.1 hevent with hevent | hevent
    · exact absurd hevent (quiet.not_mem_added event)
    · simp only [List.mem_cons, Notice.added.injEq, reduceCtorEq, List.not_mem_nil, or_self,
        or_false] at hevent
      exact ⟨came, rows, hevent⟩

/-! ### Building -/

theorem notices_applyFirst (t : Table) : t.applyFirst.notices = [] := by
  unfold applyFirst
  split
  · rfl
  · rename_i field _
    rcases t.toggle_cases field with h | ⟨spec, u, h⟩ <;> rw [h]

/-- Nobody has to be told of a table without rows. -/
theorem inSync_first (setup : Setup) (columns : List SortSpec) :
    InSync (first setup columns) [] := by
  have hblank : InSync (blank setup columns) [] := by
    refine ⟨nofun, fun _ => ⟨rfl, rfl, ?_⟩, rfl⟩
    rw [summary, visible_blank, Summary.of, List.length_nil, if_pos rfl, Nat.min_zero]
    rfl
  rcases applyFirst_table (blank setup columns) with h | ⟨field, h⟩
  · rw [first, h]
    exact hblank
  · have hsync := (reports_toggle (blank setup columns) field).inSync hblank
    rw [first, h]
    rcases (blank setup columns).toggle_cases field with htoggle | ⟨spec, u, htoggle⟩ <;>
      rwa [htoggle] at hsync ⊢

theorem inSync_build {draft : Draft} {built : Outcome Unit} (h : build draft = .ok built) :
    InSync built.table built.notices ∧ built.TellsRows [] := by
  obtain ⟨view, columns, -, -, -, rfl⟩ := build_eq h
  have hfirst := inSync_first (draft.setup view) columns
  have hrows : (first (draft.setup view) columns).rows = [] := (first_keeps _ columns).2.1
  split
  · rw [notices_applyFirst]
    refine ⟨hfirst, fun event hevent => ?_⟩
    rw [notices_applyFirst] at hevent
    cases hevent
  · have hadd := reports_add (first (draft.setup view) columns) draft.rows
    have htells := hadd.tellsRows
    rw [hrows] at htells
    simp only [notices_applyFirst, List.nil_append]
    exact ⟨hadd.inSync hfirst, htells⟩

/-! ### Listeners -/

/-- **Whoever listens to a table from the start is in sync with it.** After any commands, the page
told of last is the one shown, or none has been told of and the table is as blank as at first. Rows
are told of when they come in, with the numbers of rows and of visible rows then reached, and all of
them are. -/
theorem inSync_of_history {draft : Draft} {built : Outcome Unit} (hbuilt : build draft = .ok built)
    {uses : List Use} {t : Table} (h : History built.table uses t) :
    InSync t (built.notices ++ uses.flatMap (·.outcome.notices)) ∧ built.TellsRows [] ∧
      ∀ use ∈ uses, use.outcome.TellsRows use.table.rows := by
  obtain ⟨hsync, htells⟩ := inSync_build hbuilt
  refine ⟨?_, htells, fun use _ => (reports_perform use.table use.command).tellsRows⟩
  induction h with
  | start => rwa [List.flatMap_nil, List.append_nil]
  | @use uses t command _ ih =>
    rw [List.flatMap_append, List.flatMap_singleton, ← List.append_assoc]
    exact (reports_perform t command).inSync ih
  | withCallbacks _ _ _ ih => exact ⟨ih.page, ih.blank, ih.rows⟩

/-- Films with an `a` are looked for, one of two new ones is turned away, and the rest is sorted by
name. -/
theorem inSync_films : ∃ built uses t, build films = .ok built ∧ History built.table uses t ∧
    uses.map (·.command) = [.search " a ",
      .add [.object [("name", .string "Alien"), ("year", .null)], .null], .toggle "name"] ∧
    InSync t (built.notices ++ uses.flatMap (·.outcome.notices)) ∧ built.TellsRows [] ∧
      ∀ use ∈ uses, use.outcome.TellsRows use.table.rows := by
  obtain ⟨built, hbuilt⟩ := exists_build_films
  have hstart : History built.table [] built.table := .start
  have hsearched := hstart.use (.search " a ")
  have hpicky := hsearched.withCallbacks (some fun batch => some batch.dropLast) fun _ => false
  have h := (hpicky.use
    (.add [.object [("name", .string "Alien"), ("year", .null)], .null])).use (.toggle "name")
  exact ⟨built, _, _, hbuilt, h, rfl, inSync_of_history hbuilt h⟩

end LiveTable.Table
