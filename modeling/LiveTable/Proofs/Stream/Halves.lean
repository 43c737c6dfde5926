import LiveTable.Proofs.Table.Frame
import LiveTable.Stream.Loader

/-!
# The two halves of a tick

All ways in which the halves of a tick can go, each with what it makes of the loader and the table.

* `Loader.start_cases`: a tick is refused or its fetch is under way;
* `Loader.finish_cases`: an answer is dropped, its rows are delivered, or the fetch has failed;
* `Loader.rows_deliver`, `Loader.deliver_eq_appended`, `Loader.deliver_eq_exhausted`,
  `Loader.deliver_eq_exhausted_iff`: what delivered rows do, and when there are no more;
* `Loader.finish_eq_deliver`: when rows are delivered;
* `Loader.finish_loader`, `Loader.rows_prefix_finish`: what the second half makes of the loader and
  of the rows.
-/

namespace LiveTable.Stream.Loader

/-- A tick is refused and changes nothing, or it is the only one and its fetch is under way. -/
theorem start_cases (l : Loader) (t : Table) (hold : Hold) :
    (∃ tick, (tick = .stopped ∨ tick = .busy) ∧ l.start t hold = (.refused tick, l)) ∨
    (l.isStopped t hold = false ∧ l.fetching = false ∧ hold ≠ .exclusive ∧
      l.start t hold =
        (.fetching (l.request t) (l.source.fetch (l.request t)).1
            (l.source.fetch (l.request t)).2.1,
          { l with source := (l.source.fetch (l.request t)).2.2, fetching := true })) := by
  unfold start
  split
  · exact .inl ⟨_, .inl rfl, rfl⟩
  · split
    · exact .inl ⟨_, .inr rfl, rfl⟩
    · rename_i hstopped hready
      rw [not_or, Bool.not_eq_true] at hready
      exact .inr ⟨eq_false_of_ne_true hstopped, hready.1, hready.2, rfl⟩

/-- The loader is ready for another tick in any case. Its answer is dropped and nothing else
changes, or rows are delivered, or the fetch has failed. -/
theorem finish_cases (l : Loader) (t : Table) (hold : Hold) (response : Response) :
    (∃ tick notes, (tick = .discarded ∨ tick = .busy) ∧
      l.finish t hold response = ⟨tick, { l with fetching := false }, t, notes⟩) ∨
    (∃ rows, response = .ok rows ∧ hold = .free ∧ l.isStopped t hold = false ∧
      l.finish t hold response = { l with fetching := false }.deliver t rows) ∨
    (∃ fault, response = .error fault ∧ l.isStopped t hold = false ∧
      l.finish t hold response = { l with fetching := false }.fail t hold fault) := by
  have hready : { l with fetching := false }.isStopped t hold = l.isStopped t hold := rfl
  unfold finish
  cases response with
  | ok rows =>
    dsimp only
    rw [hready]
    split
    · exact .inl ⟨_, _, .inl rfl, rfl⟩
    · split
      · exact .inl ⟨_, _, .inr rfl, rfl⟩
      · rename_i hstopped hfree
        exact .inr (.inl ⟨rows, rfl, Decidable.not_not.1 hfree, eq_false_of_ne_true hstopped, rfl⟩)
  | error fault =>
    dsimp only
    rw [hready]
    split
    · exact .inl ⟨_, _, .inl rfl, rfl⟩
    · rename_i hstopped
      exact .inr (.inr ⟨fault, rfl, eq_false_of_ne_true hstopped, rfl⟩)

/-! ### Rows are delivered -/

theorem deliver_loader (l : Loader) (t : Table) (rows : List Value) :
    ∃ stopped, (l.deliver t rows).loader = { l with stopped } := by
  simp only [deliver]
  split <;> exact ⟨_, rfl⟩

theorem setup_deliver (l : Loader) (t : Table) (rows : List Value) :
    (l.deliver t rows).table.setup = t.setup := by
  simp only [deliver]
  split <;> exact t.setup_add rows

theorem rows_deliver (l : Loader) (t : Table) (rows : List Value) :
    (l.deliver t rows).table.rows = t.rows ++ (t.receive rows).1 := by
  simp only [deliver]
  split <;> exact t.rows_add rows

theorem deliver_eq_exhausted_iff (l : Loader) (t : Table) (rows : List Value) :
    (l.deliver t rows).tick = .exhausted ↔ (t.receive rows).1 = [] ∧ l.limit.isSome := by
  rw [← List.length_eq_zero_iff, ← t.answer_add]
  simp only [deliver]
  split <;> simp [*]

/-- If none come in the table is as it was, and both stop. -/
theorem deliver_eq_exhausted {l : Loader} {t : Table} {rows : List Value}
    (h : (t.receive rows).1 = []) (hlimit : l.limit.isSome) :
    l.deliver t rows =
      ⟨.exhausted, { l with stopped := true }, t.stop, (t.receive rows).2.map .table⟩ := by
  have hadd : t.add rows = ⟨0, t, (t.receive rows).2⟩ := by
    simp only [Table.add]
    rw [if_pos (List.isEmpty_iff.2 h)]
  simp only [deliver, hadd, hlimit, and_self, if_true, stop]

/-- Rows that come in leave the loader as it is. -/
theorem deliver_eq_appended (l : Loader) {t : Table} {rows : List Value}
    (h : (t.receive rows).1 ≠ []) :
    l.deliver t rows = ⟨.appended (t.add rows).answer, l, (t.add rows).table,
      (t.add rows).notices.map .table⟩ := by
  rw [← List.length_pos_iff, ← t.answer_add] at h
  simp only [deliver]
  rw [if_neg fun hnone => absurd hnone.1 (Nat.pos_iff_ne_zero.1 h)]

/-- Where nobody stops the loader or holds the table, rows that have come are delivered. -/
theorem finish_eq_deliver {l : Loader} {t : Table} (h : l.isStopped t .free = false)
    (rows : List Value) :
    l.finish t .free (.ok rows) = { l with fetching := false }.deliver t rows := by
  have hready : { l with fetching := false }.isStopped t .free = false := h
  rw [finish, hready, if_neg Bool.false_ne_true, if_neg (not_not_intro rfl)]

/-- The source and the limit of a loader do not change when its tick ends. -/
theorem finish_loader (l : Loader) (t : Table) (hold : Hold) (response : Response) :
    ∃ stopped, (l.finish t hold response).loader = { l with stopped, fetching := false } := by
  rcases l.finish_cases t hold response with ⟨tick, notes, -, h⟩ | ⟨rows, -, -, -, h⟩ |
    ⟨fault, -, -, h⟩
  · exact ⟨l.stopped, by rw [h]⟩
  · rw [h]
    exact deliver_loader _ t rows
  · exact ⟨true, by rw [h, fail, stop]⟩

theorem rows_prefix_finish (l : Loader) (t : Table) (hold : Hold) (response : Response) :
    t.rows <+: (l.finish t hold response).table.rows := by
  rcases l.finish_cases t hold response with ⟨tick, notes, -, h⟩ | ⟨rows, -, -, -, h⟩ |
    ⟨fault, -, -, h⟩
  · simpa only [h] using List.prefix_refl t.rows
  · rw [h, rows_deliver]
    exact List.prefix_append _ _
  · rw [h, fail, stop]
    dsimp only
    split <;> exact List.prefix_refl t.rows

end LiveTable.Stream.Loader
