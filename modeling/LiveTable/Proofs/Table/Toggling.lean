import LiveTable.Proofs.Table.History
import LiveTable.Proofs.Table.SortColumns

/-!
# Toggling columns

Each declared column is toggled on its own: its toggles alternate between its declared direction and
the other one, whatever else is done to the table in between. Building a table is the first toggle
of its first column.

* `declared? columns field`: the declaration that counts for a field;
* `SortSpec.toggled spec n`: the column after `n` toggles;
* `Table.next? t field`: the column that the next toggle of a field sorts by;
* `next?_perform`, `History.next?_eq`: only toggles of the field turn it around, each of them once;
* `active_perform`, `History.active_eq`: only sorts and toggles change the active column;
* `StaysSortedBy t spec`: `t` is sorted by `spec` until it is sorted or toggled again;
* `next?_build`, `active_build`: what a new table starts from;
* `toggle_of_history`: the toggles of each declared column alternate, whatever the commands.
-/

namespace LiveTable.Table

/-! ### Columns and their directions -/

/-- The declaration that counts for a field: the last one. -/
def declared? (columns : List SortSpec) (field : String) : Option SortSpec :=
  columns.reverse.find? (·.field = field)

theorem exists_declared {columns : List SortSpec} {spec : SortSpec} (h : spec ∈ columns.head?) :
    ∃ first, declared? columns spec.field = some first := by
  rw [← Option.isSome_iff_exists, declared?, List.find?_isSome]
  exact ⟨spec, List.mem_reverse.2 (List.mem_of_mem_head? h), decide_eq_true rfl⟩

namespace SortSpec

/-- The column in the other direction. -/
def flip (spec : SortSpec) : SortSpec := { spec with direction := spec.direction.flip }

/-- The column after `n` toggles: as it was if these were even in number, else the other way
around. -/
def toggled (spec : SortSpec) (n : Nat) : SortSpec := if n % 2 = 0 then spec else spec.flip

@[simp] theorem flip_flip (spec : SortSpec) : spec.flip.flip = spec := by
  simp [flip]

@[simp] theorem toggled_zero (spec : SortSpec) : spec.toggled 0 = spec := rfl

/-- One more toggle turns the column around. -/
theorem flip_toggled (spec : SortSpec) (n : Nat) : (spec.toggled n).flip = spec.toggled (n + 1) := by
  unfold toggled
  rcases Nat.mod_two_eq_zero_or_one n with h | h
  · rw [if_pos h, if_neg (by omega)]
  · rw [if_neg (by omega), if_pos (by omega), flip_flip]

theorem toggled_toggled (spec : SortSpec) (n k : Nat) :
    (spec.toggled n).toggled k = spec.toggled (n + k) := by
  induction k with
  | zero => rw [toggled_zero, Nat.add_zero]
  | succ k ih => rw [← flip_toggled, ih, flip_toggled, Nat.add_assoc]

/-- The columns of a field that is toggled alternate between two: only the direction changes. -/
theorem toggled_eq (spec : SortSpec) (n : Nat) :
    spec.toggled n =
      { spec with direction := if n % 2 = 0 then spec.direction else spec.direction.flip } := by
  unfold toggled
  split <;> rfl

end SortSpec

/-! ### Commands -/

/-- The command toggles a field. -/
def Command.toggles (field : String) : Command → Bool
  | toggle field' => field' == field
  | _ => false

/-- The command sorts by a column or toggles one. -/
def Command.sorts : Command → Bool
  | sort _ | toggle _ => true
  | _ => false

/-- The column that the next toggle of a field sorts by. -/
def next? (t : Table) (field : String) : Option SortSpec :=
  t.sortState.bind fun state => state.1.get? field

section Commands

variable {t : Table}

theorem active_eq (t : Table) : t.active = t.sortState.bind (·.2) := by
  rw [active, sortState, Option.bind_map]
  rfl

theorem sortState_perform {command : Command} (h : command.sorts = false) :
    (t.perform command).table.sortState = t.sortState := by
  cases command with
  | add rows => exact sortState_add t rows
  | search text => exact sortState_search t text
  | sort spec => cases h
  | toggle field => cases h
  | goTo target => exact sortState_goTo t target
  | goToText text =>
    simp only [perform]
    split
    · exact sortState_goTo t _
    · rfl
  | resize size => exact sortState_resize t size
  | _ => rfl

/-- **Only sorts and toggles change the active column.** -/
theorem active_perform {command : Command} (h : command.sorts = false) :
    (t.perform command).table.active = t.active := by
  rw [active_eq, active_eq, sortState_perform h]

/-- A toggle answers the column that the table is then sorted by. -/
theorem toggle_of_next? {field : String} {spec : SortSpec} (h : t.next? field = some spec) :
    (t.toggle field).answer = .ok spec ∧ (t.toggle field).table.active = some spec := by
  obtain ⟨⟨columns, active⟩, hstate, hspec⟩ := Option.bind_eq_some_iff.1 h
  constructor
  · obtain ⟨s, hs, heq⟩ := Option.map_eq_some_iff.1 hstate
    cases heq
    simp only [toggle, hs, hspec, Option.bind_some, Option.map_some]
  · rw [active_eq, sortState_toggle, hstate, Option.map_some]
    dsimp only
    rw [hspec]
    rfl

theorem next?_sort (spec : SortSpec) (field : String) :
    (t.sort spec).table.next? field = t.next? field := by
  rw [next?, sortState_sort, Option.bind_map]
  rfl

theorem next?_toggle (toggled field : String) :
    (t.toggle toggled).table.next? field =
      if toggled = field then (t.next? field).map SortSpec.flip else t.next? field := by
  rw [next?, next?, sortState_toggle]
  cases t.sortState with
  | none =>
    rw [Option.map_none, Option.bind_none, Option.map_none, ite_self]
  | some state =>
    simp only [Option.map_some, Option.bind_some]
    cases hspec : state.1.get? toggled with
    | none =>
      dsimp only
      split
      · rename_i hfield
        rw [← hfield, hspec, Option.map_none]
      · rfl
    | some spec =>
      dsimp only
      rw [Dict.get?_insert]
      split
      · rename_i hfield
        rw [← hfield, hspec]
        rfl
      · rfl

/-- **Only toggles of a field turn its column around.** -/
theorem next?_perform (command : Command) (field : String) :
    (t.perform command).table.next? field =
      if command.toggles field then (t.next? field).map SortSpec.flip else t.next? field := by
  cases hsorts : command.sorts with
  | false =>
    have hother : command.toggles field = false := by cases command <;> first | rfl | cases hsorts
    rw [next?, sortState_perform hsorts, hother]
    rfl
  | true =>
    cases command with
    | sort spec => exact next?_sort spec field
    | toggle toggled =>
      simp only [Command.toggles, beq_iff_eq]
      exact next?_toggle toggled field
    | _ => cases hsorts

end Commands

/-! ### Histories -/

section Histories

variable {start t : Table} {uses : List Use}

/-- The number of times that a field has been toggled. -/
def togglesOf (field : String) (uses : List Use) : Nat := uses.countP (·.command.toggles field)

theorem togglesOf_append_singleton (field : String) (uses : List Use) (use : Use) :
    togglesOf field (uses ++ [use]) =
      togglesOf field uses + if use.command.toggles field then 1 else 0 := by
  rw [togglesOf, List.countP_append, List.countP_singleton, togglesOf]

/-- **After any commands, the column of a field has been turned around once for each toggle of that
field.** -/
theorem History.next?_eq (h : History start uses t) (field : String) :
    t.next? field = (start.next? field).map (·.toggled (togglesOf field uses)) := by
  induction h with
  | start => simp [togglesOf]
  | @use uses t command _ ih =>
    rw [next?_perform, ih, togglesOf_append_singleton]
    split
    · rw [Option.map_map]
      exact congrArg (Option.map · _) (funext fun spec => spec.flip_toggled _)
    · rfl
  | withCallbacks _ _ _ ih => exact ih

/-- As long as nothing is sorted or toggled the active column stays the same. -/
theorem History.active_eq (h : History start uses t)
    (hsorts : ∀ use ∈ uses, use.command.sorts = false) : t.active = start.active := by
  induction h with
  | start => rfl
  | @use uses t command _ ih =>
    rw [active_perform (hsorts ⟨t, command⟩ (by simp)),
      ih fun use hmem => hsorts use (List.mem_append_left _ hmem)]
  | withCallbacks _ _ _ ih => exact ih hsorts

/-- The table is sorted by the given column, and stays so as long as nothing is sorted or
toggled. -/
def StaysSortedBy (t : Table) (spec : SortSpec) : Prop :=
  ∀ {uses : List Use} {u : Table}, History t uses u →
    (∀ use ∈ uses, use.command.sorts = false) → u.active = some spec

theorem staysSortedBy_of_active {spec : SortSpec} (h : t.active = some spec) :
    StaysSortedBy t spec :=
  fun hhistory hsorts => (hhistory.active_eq hsorts).trans h

end Histories

/-! ### Building -/

/-- The first toggle of a column is that of the first declared one when the table is built. -/
def firstToggle (columns : List SortSpec) (field : String) : Nat :=
  if columns.head?.map (·.field) = some field then 1 else 0

theorem next?_blank (setup : Setup) (columns : List SortSpec) (field : String) :
    (blank setup columns).next? field = declared? columns field := by
  have hget := Dict.get?_ofList (columns.map fun spec => (spec.field, spec)) field
  rw [← List.map_reverse, List.find?_map, Option.map_map] at hget
  cases hd : Dict.ofList (columns.map fun spec => (spec.field, spec)) with
  | nil =>
    rw [hd] at hget
    simp only [next?, sortState, blank, renewLinks, hd, List.isEmpty_nil, if_true, Option.map_none,
      Option.bind_none]
    simpa [declared?, Function.comp_def] using hget
  | cons e d =>
    rw [hd] at hget
    simp only [next?, sortState, blank, renewLinks, hd, List.isEmpty_cons, Bool.false_eq_true,
      if_false, Option.map_some, Option.bind_some]
    simpa [declared?, Function.comp_def] using hget

/-- The first declared column is toggled when a table is built. -/
theorem first_eq (setup : Setup) (columns : List SortSpec) :
    first setup columns =
      match columns.head? with
      | none => blank setup columns
      | some spec => ((blank setup columns).toggle spec.field).table := by
  have hhead := Dict.head?_keys_ofList (columns.map fun spec => (spec.field, spec))
  rw [List.head?_map, Option.map_map] at hhead
  have hfirst : ((blank setup columns).sorting.bind fun s => s.columns.keys.head?) =
      columns.head?.map (·.field) := by
    refine Eq.trans ?_ hhead
    simp only [blank, renewLinks]
    split
    · rename_i hempty
      rw [List.isEmpty_iff.1 hempty]
      rfl
    · rfl
  rw [first, applyFirst, hfirst]
  cases columns.head? <;> rfl

/-- The columns of a new table have been toggled as often as building it did. -/
theorem next?_first (setup : Setup) (columns : List SortSpec) (field : String) :
    (first setup columns).next? field =
      (declared? columns field).map (·.toggled (firstToggle columns field)) := by
  rw [first_eq, firstToggle]
  cases columns.head? with
  | none => simp [next?_blank]
  | some spec =>
    simp only [next?_toggle, next?_blank, Option.map_some, Option.some.injEq]
    split
    · rfl
    · simp

theorem active_first (setup : Setup) (columns : List SortSpec) :
    (first setup columns).active = columns.head?.bind fun spec => declared? columns spec.field := by
  rw [first_eq]
  cases columns with
  | nil => rfl
  | cons spec columns =>
    simp only [List.head?_cons, Option.bind_some]
    have hhead : spec ∈ (spec :: columns).head? := rfl
    obtain ⟨last, hlast⟩ := exists_declared hhead
    rw [hlast, (toggle_of_next? (by rw [next?_blank, hlast])).2]

section Built

variable {draft : Draft} {built : Outcome Unit}

/-- The rows that a table starts with leave its columns as they are. -/
theorem sortState_build (h : build draft = .ok built) :
    ∃ setup columns, draft.options.columns = .ok columns ∧
      built.table.sortState = (first setup columns).sortState := by
  obtain ⟨view, columns, -, -, hcolumns, htable⟩ := build_eq_ok h
  refine ⟨draft.setup view, columns, hcolumns, ?_⟩
  rw [htable]
  split
  · rfl
  · exact sortState_add _ _

/-- The columns of a new table are as declared, but for the first one: building the table has
toggled it. -/
theorem next?_build (h : build draft = .ok built) {columns : List SortSpec}
    (hcolumns : draft.options.columns = .ok columns) (field : String) :
    built.table.next? field =
      (declared? columns field).map (·.toggled (firstToggle columns field)) := by
  obtain ⟨setup, columns', hcolumns', hstate⟩ := sortState_build h
  cases hcolumns.symm.trans hcolumns'
  rw [← next?_first setup, next?, hstate, next?]

/-- A new table is sorted by the first of its columns. -/
theorem active_build (h : build draft = .ok built) {columns : List SortSpec}
    (hcolumns : draft.options.columns = .ok columns) :
    built.table.active = columns.head?.bind fun spec => declared? columns spec.field := by
  obtain ⟨setup, columns', hcolumns', hstate⟩ := sortState_build h
  cases hcolumns.symm.trans hcolumns'
  rw [← active_first setup, active_eq, hstate, ← active_eq]

end Built

/-! ### Alternation -/

/-- **Toggles of a declared column alternate, whatever else is done to the table.** Building sorts
by the first column as it is declared, which is its first toggle. From then on each toggle of a
column answers it in the declared direction if it has been toggled an even number of times before,
else in the other one; and the table is sorted by the answer until it is sorted or toggled again. Of
several declarations of a field the last one counts. -/
theorem toggle_of_history {draft : Draft} {built : Outcome Unit} (hbuilt : build draft = .ok built)
    {columns : List SortSpec} (hcolumns : draft.options.columns = .ok columns)
    {uses : List Use} {t : Table} (h : History built.table uses t) :
    (∀ spec ∈ columns.head?, ∃ first, declared? columns spec.field = some first ∧
      StaysSortedBy built.table first) ∧
    ∀ field spec, declared? columns field = some spec →
      let turned := firstToggle columns field + togglesOf field uses
      let next : SortSpec :=
        { spec with direction := if turned % 2 = 0 then spec.direction else spec.direction.flip }
      (t.toggle field).answer = .ok next ∧ StaysSortedBy (t.toggle field).table next := by
  constructor
  · intro spec hspec
    obtain ⟨first, hfirst⟩ := exists_declared hspec
    refine ⟨first, hfirst, staysSortedBy_of_active ?_⟩
    rw [active_build hbuilt hcolumns, Option.mem_def.1 hspec, Option.bind_some, hfirst]
  · intro field spec hspec turned next
    have hnext : t.next? field = some next := by
      rw [h.next?_eq, next?_build hbuilt hcolumns, hspec, Option.map_some, Option.map_some,
        SortSpec.toggled_toggled, SortSpec.toggled_eq]
    obtain ⟨hanswer, hactive⟩ := toggle_of_next? hnext
    exact ⟨hanswer, staysSortedBy_of_active hactive⟩

/-- Films, sorted by year when the table is built, are next sorted by the earliest year, and in
between by name. -/
theorem toggle_films : ∃ built uses t, build films = .ok built ∧ History built.table uses t ∧
    uses.map (·.command) = [.toggle "name", .sort ⟨"name", .descending, .text⟩,
      .search " a ", .add [.object [("name", .string "Alien"), ("year", .int 1979)]]] ∧
    StaysSortedBy built.table ⟨"year", .descending, .number⟩ ∧
    (t.toggle "year").answer = .ok ⟨"year", .ascending, .number⟩ ∧
    (t.toggle "name").answer = .ok ⟨"name", .descending, .text⟩ ∧
    StaysSortedBy (t.toggle "name").table ⟨"name", .descending, .text⟩ := by
  have hcolumns : films.options.columns =
      .ok [⟨"year", .descending, .number⟩, ⟨"name", .ascending, .text⟩] := rfl
  obtain ⟨built, hbuilt⟩ := exists_build_films
  have hstart : History built.table [] built.table := .start
  have h := (((hstart.use (.toggle "name")).use (.sort ⟨"name", .descending, .text⟩)).use
    (.search " a ")).use (.add [.object [("name", .string "Alien"), ("year", .int 1979)]])
  obtain ⟨hfirst, hall⟩ := toggle_of_history hbuilt hcolumns h
  obtain ⟨first, hdeclared, hsorted⟩ := hfirst _ rfl
  cases hdeclared
  have hname := hall "name" _ rfl
  exact ⟨built, _, _, hbuilt, h, rfl, hsorted, (hall "year" _ rfl).1, hname.1, hname.2⟩

end LiveTable.Table
