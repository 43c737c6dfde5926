import LiveTable.Proofs.Table.Frame

/-!
# What a table tells its owner

An operation that reports that it did nothing has done nothing: the table is what it was, and its
owner has heard at most that a batch was to be looked at. Every other answer of an operation that
may change what is visible comes with one summary of the page shown, told last.

* `Quiet notices`: neither rows that came in nor a page are told of;
* `add_cases`, `search_cases`, …: the outcomes of each operation;
* `Outcome.Idle o t`: `o` left the table `t` alone, quietly;
* `Outcome.Shows o t told`: `o` changed `t`, and after the notices `told` came the page shown;
* `Accountable t`: every operation on `t` has done what its answer says, and told of it;
* `accountable`: every table is accountable.
-/

namespace LiveTable.Table

variable (t : Table)

/-- The notices tell neither of rows that came in nor of a page. -/
def Quiet (notices : List Notice) : Prop := ∀ notice ∈ notices, ∃ size, notice = .before size

theorem quiet_nil : Quiet [] := fun _ h => absurd h List.not_mem_nil

theorem quiet_receive (batch : List Value) : Quiet (t.receive batch).2 := by
  unfold receive
  split
  · exact quiet_nil
  · intro notice hnotice
    exact ⟨batch.length, List.mem_singleton.1 hnotice⟩

/-! ### Outcomes -/

/-- Rows that come in are told of before the page is. -/
theorem add_cases (batch : List Value) :
    t.add batch = ⟨0, t, (t.receive batch).2⟩ ∨
      ∃ count u, count ≠ 0 ∧ u ≠ t ∧ t.add batch = ⟨count, u, (t.receive batch).2 ++
        [.added ⟨count, u.rows.length, u.visible.length⟩, .page u.summary]⟩ := by
  by_cases hrows : (t.receive batch).1 = []
  · left
    simp only [add, hrows, List.isEmpty_nil, if_true]
  · right
    refine ⟨(t.add batch).answer, (t.add batch).table, ?_, fun hsame => hrows ?_, ?_⟩
    · rw [answer_add]
      exact mt List.length_eq_zero_iff.1 hrows
    · have happend := t.rows_add batch
      rwa [hsame, eq_comm, List.append_right_eq_self] at happend
    · simp only [add, List.isEmpty_iff, if_neg hrows]
      split <;> rfl

theorem search_cases (text : String) :
    t.search text = ⟨false, t, []⟩ ∨
      ∃ u, u ≠ t ∧ t.search text = ⟨true, u, [.page u.summary]⟩ := by
  simp only [search]
  split
  · exact .inl rfl
  · rename_i hquery
    refine .inr ⟨_, fun hsame => hquery ?_, rfl⟩
    have hsame' := congrArg Table.query hsame
    simp only [renewLinks, renderPage] at hsame'
    split at hsame' <;> exact hsame'

theorem sort_cases (spec : SortSpec) :
    t.sort spec = ⟨false, t, []⟩ ∨ ∃ u, t.sort spec = ⟨true, u, []⟩ := by
  unfold sort
  split
  · exact .inl rfl
  · exact .inr ⟨_, rfl⟩

theorem toggle_cases (field : String) :
    t.toggle field = ⟨.error (.unknownSortColumn field), t, []⟩ ∨
      ∃ spec u, t.toggle field = ⟨.ok spec, u, []⟩ := by
  unfold toggle
  split
  · exact .inl rfl
  · rename_i s spec _
    refine .inr ⟨spec, _, congrArg (Outcome.mk _ _) ?_⟩
    rcases sort_cases _ spec with h | ⟨u, h⟩ <;> rw [h]

theorem goTo_cases (target : PageTarget) :
    t.goTo target = ⟨none, t, []⟩ ∨
      ∃ page u, u ≠ t ∧ t.goTo target = ⟨some page, u, [.page u.summary]⟩ := by
  unfold goTo
  split
  · exact .inl rfl
  · rename_i page hpage
    have hother : page ≠ t.page := of_decide_eq_true (Option.filter_eq_some_iff.1 hpage).2
    exact .inr ⟨page, _, fun hsame => hother (congrArg Table.page hsame), rfl⟩

theorem resize_cases (size : Nat) :
    t.resize size = ⟨.ok false, t, []⟩ ∨ t.resize size = ⟨.error .zeroPageSize, t, []⟩ ∨
      ∃ u, u ≠ t ∧ t.resize size = ⟨.ok true, u, [.page u.summary]⟩ := by
  simp only [resize]
  split
  · exact .inl rfl
  · rename_i hsize
    split
    · exact .inr (.inl rfl)
    · exact .inr (.inr ⟨_, fun hsame => hsize (congrArg pageSize hsame), rfl⟩)

/-! ### Answers -/

/-- An operation on a table left it as it was, and quietly. -/
structure Outcome.Idle {α : Type} (o : Outcome α) (t : Table) : Prop where
  table : o.table = t
  quiet : Quiet o.notices

/-- An operation changed a table, and told of the page shown afterwards, once and at last. -/
structure Outcome.Shows {α : Type} (o : Outcome α) (t : Table) (told : List Notice) : Prop where
  table : o.table ≠ t
  notices : o.notices = told ++ [.page o.table.summary]

/-- Every operation on a table has done what its answer says, and told of it. -/
structure Accountable (t : Table) : Prop where
  /-- Rows that came in are told of before the page is, and only they are. -/
  add : ∀ batch, Quiet (t.receive batch).2 ∧
    match (t.add batch).answer with
    | 0 => (t.add batch).Idle t
    | count + 1 => (t.add batch).Shows t ((t.receive batch).2 ++
        [.added ⟨count + 1, (t.add batch).table.rows.length, (t.add batch).table.visible.length⟩])
  search : ∀ text,
    match (t.search text).answer with
    | false => (t.search text).Idle t
    | true => (t.search text).Shows t []
  /-- Sorting shows the same page, which is not told. -/
  sort : ∀ spec,
    match (t.sort spec).answer with
    | false => (t.sort spec).Idle t
    | true => (t.sort spec).notices = []
  toggle : ∀ field,
    match (t.toggle field).answer with
    | .error fault => fault = .unknownSortColumn field ∧ (t.toggle field).Idle t
    | .ok _ => (t.toggle field).notices = []
  goTo : ∀ target,
    match (t.goTo target).answer with
    | none => (t.goTo target).Idle t
    | some _ => (t.goTo target).Shows t []
  resize : ∀ size,
    match (t.resize size).answer with
    | .ok false => (t.resize size).Idle t
    | .error fault => fault = .zeroPageSize ∧ (t.resize size).Idle t
    | .ok true => (t.resize size).Shows t []

/-- **An operation that reports that it did nothing has done nothing and told of nothing; every
other answer but that to a sort comes with one notice of the page, and that to new rows with one of
these before it.** -/
theorem accountable : Accountable t where
  add := by
    intro batch
    refine ⟨t.quiet_receive batch, ?_⟩
    rcases t.add_cases batch with h | ⟨count, u, hcount, hother, h⟩
    · rw [h]
      exact ⟨rfl, t.quiet_receive batch⟩
    · obtain ⟨count, rfl⟩ := Nat.exists_eq_succ_of_ne_zero hcount
      rw [h]
      exact ⟨hother, by rw [List.append_assoc]; rfl⟩
  search := by
    intro text
    rcases t.search_cases text with h | ⟨u, hother, h⟩ <;> rw [h]
    · exact ⟨rfl, quiet_nil⟩
    · exact ⟨hother, rfl⟩
  sort := by
    intro spec
    rcases t.sort_cases spec with h | ⟨u, h⟩ <;> rw [h]
    exact ⟨rfl, quiet_nil⟩
  toggle := by
    intro field
    rcases t.toggle_cases field with h | ⟨spec, u, h⟩ <;> rw [h]
    exact ⟨rfl, rfl, quiet_nil⟩
  goTo := by
    intro target
    rcases t.goTo_cases target with h | ⟨page, u, hother, h⟩ <;> rw [h]
    · exact ⟨rfl, quiet_nil⟩
    · exact ⟨hother, rfl⟩
  resize := by
    intro size
    rcases t.resize_cases size with h | h | ⟨u, hother, h⟩ <;> rw [h]
    · exact ⟨rfl, quiet_nil⟩
    · exact ⟨rfl, rfl, quiet_nil⟩
    · exact ⟨hother, rfl⟩

end LiveTable.Table
