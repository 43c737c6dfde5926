import LiveTable.Proofs.Stream.Flights
import LiveTable.Proofs.Stream.Sifting

/-!
# When a stream ends

A source says by an empty answer that it has no more rows, and then the stream is to end. A tick
does not go by the answer, though, but by the rows of it that come into the table, and a table may
turn rows away or have others come in their place. So a stream ends early where a table turns away
all rows of an answer, and goes on where a table makes rows out of nothing.

* `Feed.Landing f number flight l rows`: rows have come, and nothing keeps them from the table;
* `Feed.EndsWhenDry f number i rows`: the stream ends if these are none, and only then;
* `Landing.step_of_none`, `Landing.step_of_some`: the stream ends if none of them come in;
* `Landing.endsWhenDry_of_no_look`: for a table that takes rows as they come the two are the same;
* `endsWhenDry_iff_of_landing`: for which tables and rows they are.
-/

namespace LiveTable.Stream.Feed

variable {f : Feed} {number : Nat} {flight : Flight} {l : Loader} {rows : List Value}

/-- The source of a loader that goes on has answered with rows, and nobody holds the table. -/
structure Landing (f : Feed) (number : Nat) (flight : Flight) (l : Loader)
    (rows : List Value) : Prop where
  underWay : f.flight? number = some flight
  loader : f.loaders[flight.loader]? = some l
  answered : flight.response = .ok rows
  goesOn : l.isStopped f.table f.hold = false
  free : f.hold = .free

/-- The tick of a fetch that brings the rows finds the source exhausted and stops its loader if
these are none, and only then; else it says that rows were added. -/
def EndsWhenDry (f : Feed) (number i : Nat) (rows : List Value) : Prop :=
  let done := f.step (.land number)
  ((done.answer = .tick .exhausted ∧ ∃ l, done.feed.loaders[i]? = some l ∧ l.stopped = true) ↔
      rows = []) ∧
    (rows ≠ [] → ∃ count, done.answer = .tick (.appended count))

namespace Landing

/-- The rows are delivered. -/
theorem step_eq (h : f.Landing number flight l rows) :
    (f.step (.land number)).answer =
        .tick ({ l with fetching := false }.deliver f.table rows).tick ∧
      (f.step (.land number)).feed.loaders[flight.loader]? =
        some ({ l with fetching := false }.deliver f.table rows).loader := by
  have hi := (List.getElem?_eq_some_iff.1 h.loader).1
  have hgoes := h.goesOn
  rw [h.free] at hgoes
  simp only [step, Feed.land, h.underWay, h.loader, h.answered, h.free,
    Loader.finish_eq_deliver hgoes, setLoader, forget, List.getElem?_set_self hi, and_self]

/-- **The stream ends if no rows come in.** -/
theorem step_of_none (h : f.Landing number flight l rows) (hlimited : l.Limited)
    (hnone : (f.table.receive rows).1 = []) :
    (f.step (.land number)).answer = .tick .exhausted ∧
      (f.step (.land number)).feed.loaders[flight.loader]? =
        some { l with fetching := false, stopped := true } := by
  have hlimit : { l with fetching := false }.limit.isSome := hlimited.isSome h.goesOn
  have hstep := h.step_eq
  rw [Loader.deliver_eq_exhausted hnone hlimit] at hstep
  exact hstep

/-- **The stream goes on if rows come in.** -/
theorem step_of_some (h : f.Landing number flight l rows)
    (hsome : (f.table.receive rows).1 ≠ []) :
    (f.step (.land number)).answer = .tick (.appended (f.table.receive rows).1.length) ∧
      (f.step (.land number)).feed.loaders[flight.loader]? =
        some { l with fetching := false } := by
  have hstep := h.step_eq
  rw [Loader.deliver_eq_appended _ hsome, f.table.answer_add] at hstep
  exact hstep

/-- The stream ends when the source has no more rows if rows come in for rows, and none for none. -/
theorem endsWhenDry_iff (h : f.Landing number flight l rows) (hlimited : l.Limited) :
    f.EndsWhenDry number flight.loader rows ↔ ((f.table.receive rows).1 = [] ↔ rows = []) := by
  simp only [EndsWhenDry]
  by_cases hnone : (f.table.receive rows).1 = []
  · obtain ⟨hanswer, hloader⟩ := h.step_of_none hlimited hnone
    rw [hanswer, hloader]
    simp [hnone]
  · obtain ⟨hanswer, hloader⟩ := h.step_of_some hnone
    rw [hanswer, hloader]
    simp [hnone]

/-- A table that takes rows as they come ends a stream when the source has no more. -/
theorem endsWhenDry_of_no_look (h : f.Landing number flight l rows) (hlimited : l.Limited)
    (hlook : f.table.setup.beforeAdd = none) : f.EndsWhenDry number flight.loader rows := by
  rw [h.endsWhenDry_iff hlimited, Table.receive, hlook]

end Landing

/-- **When a stream ends.** In whatever order ticks start and fetches land, a tick whose rows are
delivered finds the source exhausted and stops its loader if none of them come in; else it says how
many did and the loader goes on. So the stream ends when the source has no more rows if and only if
the table has rows come in for rows, and none for none. -/
theorem endsWhenDry_iff_of_landing (t : Table) (events : List Event)
    (h : ((of t).after events).Landing number flight l rows) :
    let f := (of t).after events
    let came := (f.table.receive rows).1
    (came = [] → (f.step (.land number)).answer = .tick .exhausted ∧
        (f.step (.land number)).feed.loaders[flight.loader]? =
          some { l with fetching := false, stopped := true }) ∧
      (came ≠ [] → (f.step (.land number)).answer = .tick (.appended came.length) ∧
        (f.step (.land number)).feed.loaders[flight.loader]? =
          some { l with fetching := false }) ∧
      (f.EndsWhenDry number flight.loader rows ↔ (came = [] ↔ rows = [])) := by
  have hlimited := ((guarded_of t).after events).limited flight.loader l h.loader
  exact ⟨h.step_of_none hlimited, h.step_of_some, h.endsWhenDry_iff hlimited⟩

/-- Two films without a date, and then one with a date. -/
def undatedFirst : List Value := (Table.films.rows.drop 2 ++ Table.films.rows.reverse).dropLast

/-- A fetch of the first two films for a table that turns them away. -/
def undatedEvening : List Event := [.join (.memory undatedFirst) none, .start 0]

theorem landing_undatedEvening :
    ((of datedCinema).after undatedEvening).Landing 0 ⟨0, 0, .ok (undatedFirst.take 2)⟩
      { Loader.ofOptions (.memory undatedFirst) datedCinema.setup.options none with
        fetching := true } (undatedFirst.take 2) :=
  ⟨rfl, rfl, rfl, rfl, rfl⟩

/-- Both films are turned away, and that is the end of the stream, though a third one is left. -/
theorem endsWhenDry_iff_undatedEvening :
    let f := (of datedCinema).after undatedEvening
    (∃ flight l, f.Landing 0 flight l (undatedFirst.take 2)) ∧ undatedFirst.drop 2 ≠ [] ∧
      (f.step (.land 0)).answer = .tick .exhausted ∧ ¬ f.EndsWhenDry 0 0 (undatedFirst.take 2) := by
  have hends := endsWhenDry_iff_of_landing datedCinema undatedEvening landing_undatedEvening
  refine ⟨⟨_, _, landing_undatedEvening⟩, List.cons_ne_nil _ _, (hends.1 rfl).1, fun hdry => ?_⟩
  exact absurd ((hends.2.2.1 hdry).1 rfl) (List.cons_ne_nil _ _)

/-- A stream may end before its source has said that it has no more rows. -/
theorem not_forall_endsWhenDry :
    ¬ ∀ (t : Table) (events : List Event) (number : Nat) (flight : Flight) (l : Loader)
      (rows : List Value), ((of t).after events).Landing number flight l rows →
        ((of t).after events).EndsWhenDry number flight.loader rows := by
  intro hall
  have hdry := hall _ _ _ _ _ _ landing_undatedEvening
  have hlimited := ((guarded_of datedCinema).after undatedEvening).limited 0 _
    landing_undatedEvening.loader
  have hnone := ((landing_undatedEvening.endsWhenDry_iff hlimited).1 hdry).1 rfl
  exact absurd hnone (List.cons_ne_nil _ _)

end LiveTable.Stream.Feed
