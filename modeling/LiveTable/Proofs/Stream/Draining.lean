import LiveTable.Proofs.Stream.Sifting
import LiveTable.Proofs.Table.Batches

/-!
# Lists moved as a whole

A loader that nobody disturbs moves a list into a table window by window. In the end the table is
the one in which all rows came in at once, except that streaming has been stopped.

* `Loader.tickAlone_of_dry`, `Loader.tickAlone_of_left`: a tick when the table holds the whole list,
  and when rows are left;
* `Loader.running_runUpTo`: what enough ticks make of a table;
* `Loader.running_run_file`: what a run over a file makes of a table without rows.
-/

namespace LiveTable.Stream.Loader

variable {all : List Value} {n : Nat} {l : Loader} {t : Table}

/-- What is left behind the upcoming rows. -/
theorem upcoming_append_drop (all : List Value) (n : Nat) (t : Table) :
    upcoming all n t ++ all.drop (t.rows ++ upcoming all n t).length = all.drop t.rows.length := by
  have hprefix : upcoming all n t <+: all.drop t.rows.length := List.take_prefix n _
  rw [List.length_append, ← List.drop_drop]
  exact List.prefix_iff_eq_append.1 hprefix

/-- A tick for a table that holds as many rows as the list finds the list exhausted. -/
theorem tickAlone_of_dry (hl : l.Reads all n) (hlook : t.setup.beforeAdd = none)
    (hrunning : t.stopped = false) (hdry : all.length ≤ t.rows.length) :
    l.tickAlone t = ⟨.exhausted, { l with stopped := true }, t.stop, [.fetch (l.request t)]⟩ := by
  have hnone : upcoming all n t = [] := by
    rw [upcoming, List.drop_eq_nil_of_le hdry, List.take_nil]
  have hreceive : t.receive (upcoming all n t) = ([], []) := by
    rw [Table.receive, hlook, hnone]
  have hlimit : l.limit.isSome := by rw [hl.limit, Option.isSome_some]
  rw [tickAlone_of_reads hl hrunning, deliver_eq_exhausted (by rw [hreceive]) hlimit, hreceive]
  rfl

/-- A tick for a table that holds fewer rows than the list adds the upcoming ones. -/
theorem tickAlone_of_left (hl : l.Reads all n) (hn : 1 ≤ n) (hlook : t.setup.beforeAdd = none)
    (hrunning : t.stopped = false) (hleft : t.rows.length < all.length) :
    l.tickAlone t =
      ⟨.appended (t.add (upcoming all n t)).answer, l, (t.add (upcoming all n t)).table,
        .fetch (l.request t) :: (t.add (upcoming all n t)).notices.map .table⟩ := by
  have hsome : upcoming all n t ≠ [] := by
    rw [upcoming, Ne, List.take_eq_nil_iff, List.drop_eq_nil_iff]
    omega
  have hreceive : t.receive (upcoming all n t) = (upcoming all n t, []) := by
    rw [Table.receive, hlook]
  rw [tickAlone_of_reads hl hrunning, l.deliver_eq_appended (by rw [hreceive]; exact hsome)]

/-- The upcoming rows come in behind those of the table. -/
theorem rows_add_upcoming (hlook : t.setup.beforeAdd = none) :
    (t.add (upcoming all n t)).table.rows = t.rows ++ upcoming all n t := by
  rw [Table.rows_add, Table.receive, hlook]

theorem length_rows_add_upcoming (hlook : t.setup.beforeAdd = none)
    (hleft : t.rows.length ≤ all.length) :
    (t.add (upcoming all n t)).table.rows.length = min (t.rows.length + n) all.length := by
  rw [rows_add_upcoming hlook, List.length_append, upcoming, List.length_take, List.length_drop]
  omega

/-- **Enough ticks bring in what is left of the list**, as if it came in at once. -/
theorem running_runUpTo (hl : l.Reads all n) (hn : 1 ≤ n) (h : t.Arranged)
    (hlook : t.setup.beforeAdd = none) (hgoes : ∀ event, t.setup.stopsAfter event = false)
    (hrunning : t.stopped = false) {ticks : Nat} (hticks : all.length < t.rows.length + ticks) :
    (l.runUpTo ticks t).table.running = (t.add (all.drop t.rows.length)).table.running := by
  induction ticks generalizing t with
  | zero =>
    rw [List.drop_eq_nil_of_le (Nat.le_of_lt hticks : all.length ≤ t.rows.length),
      Table.add_nil hlook, runUpTo]
  | succ ticks ih =>
    rw [runUpTo, hl.isStopped_eq hrunning, if_neg Bool.false_ne_true]
    by_cases hdry : all.length ≤ t.rows.length
    · rw [tickAlone_of_dry hl hlook hrunning hdry, List.drop_eq_nil_of_le hdry,
        Table.add_nil hlook]
      rfl
    · have hleft : t.rows.length < all.length := Nat.lt_of_not_le hdry
      have hrows : (t.add (upcoming all n t)).table.rows = t.rows ++ upcoming all n t :=
        rows_add_upcoming hlook
      have hmore : all.length < (t.add (upcoming all n t)).table.rows.length + ticks := by
        rw [length_rows_add_upcoming hlook (Nat.le_of_lt hleft)]
        omega
      have hrest := ih (h.add (upcoming all n t)) (by rw [Table.setup_add, hlook])
        (by rw [Table.setup_add]; exact hgoes) ((t.stopped_add _ hgoes).trans hrunning) hmore
      rw [hrows, h.add_add hlook, upcoming_append_drop] at hrest
      rw [tickAlone_of_left hl hn hlook hrunning hleft]
      exact hrest

/-- **A run over a file that does not change brings in all its rows** into a new table, as if they
came in at once. -/
theorem running_run_file {draft : Table.Draft} {built : Table.Outcome Unit}
    (hbuilt : Table.build draft = .ok built) (hempty : draft.rows = [])
    (hlook : draft.beforeAdd = none) (hgoes : ∀ event, draft.stopsAfter event = false)
    (hlimit : draft.options.fetchLimit = some n) (hn : 1 ≤ n) (all : List Value)
    (interval : Option Nat) :
    ((ofOptions (.file (.ok all)) draft.options interval).run built.table).table.running =
      (built.table.add all).table.running := by
  have hreads : (ofOptions (.file (.ok all)) draft.options interval).Reads all n :=
    { source := fun _ => ⟨_, rfl⟩
      limit := hlimit
      goesOn := by rw [ofOptions, hlimit, Option.isNone_some]
      idle := rfl }
  have harranged : built.table.Arranged := (Table.Reachable.build hbuilt).arranged
  obtain ⟨view, columns, -, -, -, htable⟩ := Table.build_eq_ok hbuilt
  obtain ⟨hsetup, hrows, hrunning⟩ := Table.first_keeps (draft.setup view) columns
  rw [hempty, List.isEmpty_nil, if_pos rfl] at htable
  rw [← htable] at hsetup hrows hrunning
  have hticks : all.length < built.table.rows.length + (all.length + 1) := by omega
  have hrest : all.drop built.table.rows.length = all := by
    rw [hrows, List.length_nil, List.drop_zero]
  have hrun := running_runUpTo hreads hn harranged (by rw [hsetup]; exact hlook)
    (by rw [hsetup]; exact hgoes) hrunning hticks
  rw [hrest] at hrun
  exact hrun

end LiveTable.Stream.Loader
