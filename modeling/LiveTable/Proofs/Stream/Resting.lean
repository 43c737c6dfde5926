import LiveTable.Proofs.Stream.Delivering

/-!
# At rest

A loader has been stopped, or its table has, and that is the end of it, whoever holds the table and
whatever callbacks do in the middle of a delivery: each tick that starts is refused, the answer to a
fetch is dropped, and no row comes in. There is one exception. A table that looks at rows may stop
their loader with that look, and then these rows still come in, for the tick that delivers them has
asked before.

* `Scene.loader_after`, `Scene.stopped_after`: no move takes a stop back;
* `Scene.Rests s i`: no tick of the loader `i` does anything;
* `Scene.Adds s i m`: the loader `i` adds rows by the move `m`;
* `Scene.rows_step`: rows are added by commands and by loaders;
* `Scene.looking_after`: a loader that has been stopped delivers only what was being looked at;
* `Scene.stopped_for_good`: all of this, at any time after a stop.
-/

namespace LiveTable.Stream

/-- The end of a delivery does not let a loader go on that was stopped. -/
theorem Loader.stopped_close {l : Loader} (h : l.stopped = true) (t : Table) (count : Nat) :
    (l.close t count).loader.stopped = true := by
  simp only [close]
  split
  · rfl
  · exact h

/-- Nor does it let streaming go on. -/
theorem Loader.stopped_table_close (l : Loader) {t : Table} (h : t.stopped = true) (count : Nat) :
    (l.close t count).table.stopped = true := by
  simp only [close, stop, if_pos]
  split
  · rfl
  · exact h

/-- The rows have come in before. -/
theorem Loader.rows_close (l : Loader) (t : Table) (count : Nat) :
    (l.close t count).table.rows = t.rows := by
  simp only [close, stop, if_pos]
  split <;> rfl

/-- Rows are delivered by a loader that goes on, to a table that does. -/
theorem Feed.Landing.not_halted {f : Feed} {number : Nat} {flight : Flight} {l : Loader}
    {rows : List Value} (h : f.Landing number flight l rows) : ¬ l.Halted f.table := by
  intro hhalted
  have hhold := (hhalted.eq_exclusive h.goesOn).2
  rw [h.free] at hhold
  cases hhold

/-- An event by which no rows are about to be delivered adds some only if it is a command. -/
theorem Feed.rows_step_of_opens_eq_none {f : Feed} {e : Event} (h : f.opens e = none)
    (he : ∀ rows, e ≠ .command (.add rows)) : (f.step e).feed.table.rows = f.table.rows := by
  rcases f.table_step_cases e with heq | heq | ⟨number, flight, l, rfl, hflight, hl, heq⟩ |
    ⟨command, rfl, heq⟩
  · rw [heq]
  · rw [heq, Table.stop]
  · rw [heq]
    rcases l.finish_cases f.table f.hold flight.response with ⟨tick, notes, -, hfinish⟩ |
      ⟨rows, hrows, hfree, hgoes, -⟩ | ⟨fault, -, -, hfinish⟩
    · rw [hfinish]
    · have hlanding : f.Landing number flight l rows := ⟨hflight, hl, hrows, hgoes, hfree⟩
      cases h.symm.trans hlanding.opens
    · rw [hfinish, Loader.fail, Loader.stop]
      dsimp only
      split <;> rfl
  · rw [heq]
    exact (Table.keeps_perform f.table fun rows hadd => he rows (congrArg Event.command hadd)).rows

namespace Scene

variable {s : Scene} {i : Nat} {l : Loader}

/-! ### No move takes a stop back -/

/-- **A loader that has been stopped stays so.** -/
theorem loader_step (h : s.feed.loaders[i]? = some l) (hstopped : l.stopped = true) (m : Move) :
    ∃ l', (s.step m).scene.feed.loaders[i]? = some l' ∧ l'.stopped = true := by
  rcases s.step_cases m with heq | ⟨e, -, -, -, heq⟩ | ⟨e, flight, batch, -, -, heq⟩ |
    ⟨look, stopsAfter, -, heq⟩ | ⟨j, batch, -, -, heq⟩ | ⟨j, count, k, -, -, hk, heq⟩ <;> rw [heq]
  · exact ⟨l, h, hstopped⟩
  · exact Feed.loader_step h hstopped e
  · exact ⟨l, h, hstopped⟩
  · exact ⟨l, h, hstopped⟩
  · exact ⟨l, h, hstopped⟩
  · refine Feed.loader_setLoader h hstopped fun old hold hstopped => ?_
    cases hk.symm.trans hold
    exact Loader.stopped_close hstopped _ _

/-- **A table into which streaming has been stopped stays so.** -/
theorem stopped_step (h : s.feed.table.stopped = true) (m : Move) :
    (s.step m).scene.feed.table.stopped = true := by
  rcases s.step_cases m with heq | ⟨e, -, -, -, heq⟩ | ⟨e, flight, batch, -, -, heq⟩ |
    ⟨look, stopsAfter, -, heq⟩ | ⟨j, batch, -, -, heq⟩ | ⟨j, count, k, -, -, hk, heq⟩ <;> rw [heq]
  · exact h
  · exact Feed.stopped_step h e
  · exact h
  · exact h
  · exact Table.stopped_perform h (.add batch)
  · exact k.stopped_table_close h count

theorem loader_after (h : s.feed.loaders[i]? = some l) (hstopped : l.stopped = true)
    (moves : List Move) :
    ∃ l', (s.after moves).feed.loaders[i]? = some l' ∧ l'.stopped = true := by
  induction moves generalizing s l with
  | nil => exact ⟨l, h, hstopped⟩
  | cons m moves ih =>
    obtain ⟨l', h', hstopped'⟩ := loader_step h hstopped m
    exact ih h' hstopped'

theorem stopped_after (h : s.feed.table.stopped = true) (moves : List Move) :
    (s.after moves).feed.table.stopped = true := by
  induction moves generalizing s with
  | nil => exact h
  | cons m moves ih => exact ih (stopped_step h m)

/-! ### Loaders at rest -/

/-- No tick of the loader `i` does anything. One that starts is refused: nothing changes, and nobody
is asked for rows. One whose fetch lands leaves the table alone, delivers nothing and says so. -/
structure Rests (s : Scene) (i : Nat) : Prop where
  start : ∀ l, s.feed.loaders[i]? = some l → s.allows (.start i) →
    ∃ tick, (tick = .stopped ∨ tick = .busy) ∧ s.step (.event (.start i)) = ⟨.tick tick, s, []⟩
  land : ∀ flight l, s.feed.flight? flight.number = some flight → flight.loader = i →
    s.feed.loaders[i]? = some l → s.allows (.land flight.number) →
      let done := s.step (.event (.land flight.number))
      done.scene.feed.table = s.feed.table ∧ done.scene.delivery = s.delivery ∧
        (done.answer = .tick .discarded ∨
          l.stopped = false ∧ s.feed.hold = .exclusive ∧
            ((∃ rows, flight.response = .ok rows ∧ done.answer = .tick .busy) ∨
              ∃ fault, flight.response = .error fault ∧ done.answer = .tick .failed))

/-- A loader that was stopped is at rest, and so is one whose table was. -/
theorem rests_of_halted (h : ∀ l, s.feed.loaders[i]? = some l → l.Halted s.feed.table) :
    s.Rests i where
  start l hl hallows := by
    obtain ⟨tick, htick, hstart⟩ := Loader.start_of_halted (h l hl) s.feed.hold
    refine ⟨tick, htick, ?_⟩
    have hstep : s.feed.step (.start i) = ⟨.tick tick, s.feed, []⟩ := by
      simp only [Feed.step, Feed.start, hl, hstart]
    simp only [step, happen, if_pos hallows, Feed.opens, hstep]
  land flight l hflight hi hl hallows := by
    subst hi
    obtain ⟨htable, htick⟩ := Loader.finish_of_halted (h l hl) s.feed.hold flight.response
    have hopens : s.feed.opens (.land flight.number) = none := by
      rw [Option.eq_none_iff_forall_ne_some]
      rintro ⟨flight', rows⟩ hopens
      obtain ⟨l', hland, hlanding⟩ := Feed.exists_landing hopens
      rw [← Event.land.inj hland] at hlanding
      cases hflight.symm.trans hlanding.underWay
      cases hl.symm.trans hlanding.loader
      exact hlanding.not_halted (h l hl)
    simp only [step, happen, if_pos hallows, hopens, Feed.step, Feed.land, hflight, hl,
      Answer.tick.injEq]
    exact ⟨htable, trivial, htick⟩

/-! ### Who adds rows -/

/-- The loader `i` adds rows by the move: they change while a tick of it delivers some. -/
def Adds (s : Scene) (i : Nat) (m : Move) : Prop :=
  (∃ phase, s.delivery = some ⟨i, phase⟩) ∧
    (s.step m).scene.feed.table.rows ≠ s.feed.table.rows

/-- Rows come in by commands, and when the table has looked at those that are delivered. -/
theorem rows_step_cases (s : Scene) (m : Move) :
    (s.step m).scene.feed.table.rows = s.feed.table.rows ∨
    (∃ rows, m = .event (.command (.add rows)) ∧ s.delivery = none) ∨
    (∃ i batch, m = .takeIn ∧ s.delivery = some ⟨i, .looking batch⟩) := by
  rcases s.step_cases m with heq | ⟨e, rfl, hallows, hopens, heq⟩ | ⟨e, flight, batch, -, -, heq⟩ |
    ⟨look, stopsAfter, -, heq⟩ | ⟨i, batch, rfl, hd, -⟩ | ⟨i, count, l, -, -, -, heq⟩
  · exact .inl (by rw [heq])
  · by_cases he : ∃ rows, e = .command (.add rows)
    · obtain ⟨rows, rfl⟩ := he
      refine .inr (.inl ⟨rows, rfl, ?_⟩)
      cases hd : s.delivery with
      | none => rfl
      | some d => cases (spares_of_allows hallows hd).2
    · rw [not_exists] at he
      exact .inl (by rw [heq]; exact Feed.rows_step_of_opens_eq_none hopens he)
  · exact .inl (by rw [heq]; rfl)
  · exact .inl (by rw [heq]; rfl)
  · exact .inr (.inr ⟨i, batch, rfl, hd⟩)
  · refine .inl ?_
    rw [heq]
    exact l.rows_close s.feed.table count

theorem Adds.looking {m : Move} (h : s.Adds i m) :
    ∃ batch, m = .takeIn ∧ s.delivery = some ⟨i, .looking batch⟩ := by
  obtain ⟨⟨phase, hd⟩, hrows⟩ := h
  rcases s.rows_step_cases m with hsame | ⟨rows, -, hnone⟩ | ⟨j, batch, hm, hlooking⟩
  · exact absurd hsame hrows
  · cases hnone.symm.trans hd
  · cases hd.symm.trans hlooking
    exact ⟨batch, hm, hd⟩

/-- **Rows are added by commands and by loaders.** -/
theorem rows_step {m : Move} (h : (s.step m).scene.feed.table.rows ≠ s.feed.table.rows) :
    (∃ rows, m = .event (.command (.add rows))) ∨ ∃ i, s.Adds i m := by
  rcases s.rows_step_cases m with hsame | ⟨rows, hm, -⟩ | ⟨i, batch, -, hd⟩
  · exact absurd hsame h
  · exact .inl ⟨rows, hm⟩
  · exact .inr ⟨i, ⟨_, hd⟩, h⟩

/-! ### What still comes in -/

/-- A loader that has been stopped does not begin to deliver rows. -/
theorem looking_step (h : s.feed.loaders[i]? = some l) (hstopped : l.stopped = true) {m : Move}
    {batch : List Value} (hd : (s.step m).scene.delivery = some ⟨i, .looking batch⟩) :
    s.delivery = some ⟨i, .looking batch⟩ ∧
      (s.step m).scene.feed.table.rows = s.feed.table.rows := by
  have hbefore : s.delivery = some ⟨i, .looking batch⟩ := by
    rcases s.step_cases m with heq | ⟨e, -, -, -, heq⟩ | ⟨e, flight, rows, -, hopens, heq⟩ |
      ⟨look, stopsAfter, -, heq⟩ | ⟨j, rows, -, -, heq⟩ | ⟨j, count, k, -, -, -, heq⟩ <;>
      rw [heq] at hd
    · exact hd
    · exact hd
    · -- A loader begins to deliver only if it goes on.
      obtain ⟨k, -, hlanding⟩ := Feed.exists_landing hopens
      cases hd
      cases h.symm.trans hlanding.loader
      exact absurd (.inl hstopped) hlanding.not_halted
    · exact hd
    · cases hd
    · cases hd
  refine ⟨hbefore, ?_⟩
  rcases s.rows_step_cases m with hsame | ⟨rows, -, hnone⟩ | ⟨j, rows, rfl, hlooking⟩
  · exact hsame
  · cases hnone.symm.trans hbefore
  · -- When rows have come in, the table does not look any more.
    simp [step, takeIn, hlooking] at hd

/-- **A loader that has been stopped delivers only what was being looked at.** -/
theorem looking_after (h : s.feed.loaders[i]? = some l) (hstopped : l.stopped = true)
    {moves : List Move} {batch : List Value}
    (hd : (s.after moves).delivery = some ⟨i, .looking batch⟩) :
    s.delivery = some ⟨i, .looking batch⟩ ∧
      (s.after moves).feed.table.rows = s.feed.table.rows := by
  induction moves generalizing s l with
  | nil => exact ⟨hd, rfl⟩
  | cons m moves ih =>
    obtain ⟨l', h', hstopped'⟩ := loader_step h hstopped m
    obtain ⟨hlooking, hrows⟩ := ih h' hstopped' hd
    obtain ⟨hbefore, hsame⟩ := looking_step h hstopped hlooking
    exact ⟨hbefore, hrows.trans hsame⟩

/-- **A stop is for good.** Whatever happens afterwards, a loader that has been stopped stays so and
rests, and it adds no rows but those that the table was looking at when it was stopped. When the
table has been stopped, that stays so, and all loaders of it, those that join later too, rest and
add no rows. Rows that no loader adds come by commands. -/
theorem stopped_for_good (t : Table) (moves more : List Move) :
    let s := (of t).after moves
    let later := s.after more
    (∀ i l, s.feed.loaders[i]? = some l → l.stopped = true →
      (∃ l', later.feed.loaders[i]? = some l' ∧ l'.stopped = true) ∧ later.Rests i ∧
        ∀ m, later.Adds i m → s.feed.table.setup.beforeAdd.isSome ∧
          (∃ batch, s.delivery = some ⟨i, .looking batch⟩) ∧ later.delivery = s.delivery ∧
            later.feed.table.rows = s.feed.table.rows) ∧
      (s.feed.table.stopped = true →
        later.feed.table.stopped = true ∧ ∀ i, later.Rests i ∧ ∀ m, ¬ later.Adds i m) ∧
      ∀ m, (later.step m).scene.feed.table.rows ≠ later.feed.table.rows →
        (∃ rows, m = .event (.command (.add rows))) ∨ ∃ i, later.Adds i m := by
  intro s later
  have hsound : s.Sound := sound_after t moves
  refine ⟨fun i l hl hstopped => ?_, fun hstopped => ?_, fun m => rows_step⟩
  · obtain ⟨l', hl', hstopped'⟩ := loader_after hl hstopped more
    refine ⟨⟨l', hl', hstopped'⟩, rests_of_halted fun k hk => ?_, fun m hadds => ?_⟩
    · cases hl'.symm.trans hk
      exact .inl hstopped'
    · obtain ⟨batch, -, hlooking⟩ := hadds.looking
      obtain ⟨hd, hrows⟩ := looking_after hl hstopped hlooking
      refine ⟨?_, ⟨batch, hd⟩, hlooking.trans hd.symm, hrows⟩
      rw [Option.isSome_iff_ne_none]
      intro hlook
      cases hstopped.symm.trans (hsound.loaderGoesOn i batch l hd hlook hl)
  · have hstopped' : later.feed.table.stopped = true := stopped_after hstopped more
    refine ⟨hstopped', fun i => ⟨rests_of_halted fun _ _ => .inr hstopped', fun m hadds => ?_⟩⟩
    -- The table had not been stopped when it began to look at rows.
    obtain ⟨batch, -, hlooking⟩ := hadds.looking
    cases hstopped'.symm.trans ((hsound.after more).tableGoesOn i batch hlooking)

/-- A cinema that has a look at films and takes them as they come. -/
def preview : Table := Feed.cinema.withCallbacks (some fun _ => none) fun _ => false

/-- The cinema looks at the first two films and stops their loader meanwhile. -/
def stoppedPreview : List Move :=
  [.event (.join (.memory Table.films.rows) none), .event (.start 0), .event (.land 0),
    .event (.stop 0)]

/-- Streaming is stopped during a fetch that fails while somebody changes the table. -/
def stoppedOutage : List Move :=
  [.event (.join (.script [.error (.source "offline")] 0) none), .event (.start 0),
    .event (.command .stop), .event (.hold .exclusive)]

theorem stopped_stoppedPreview :
    ∃ l, ((of preview).after stoppedPreview).feed.loaders[0]? = some l ∧ l.stopped = true :=
  ⟨_, rfl, rfl⟩

theorem adds_stoppedPreview : ((of preview).after stoppedPreview).Adds 0 .takeIn :=
  ⟨⟨.looking (Table.films.rows.take 2), rfl⟩, List.cons_ne_nil _ _⟩

/-- The two films that are looked at come in, and then the loader is at rest; so is the one whose
fetch fails after its table was stopped. -/
theorem stopped_for_good_preview :
    let looking := (of preview).after stoppedPreview
    let later := looking.after [.takeIn, .close]
    let outage := (of Feed.cinema).after stoppedOutage
    (∃ l, looking.feed.loaders[0]? = some l ∧ l.stopped = true) ∧ later.Rests 0 ∧
      (∀ m, ¬ later.Adds 0 m) ∧ later.feed.table.rows = Table.films.rows.take 2 ∧
      outage.feed.table.stopped = true ∧ outage.Rests 0 ∧ ∀ m, ¬ outage.Adds 0 m := by
  intro looking later outage
  obtain ⟨l, hl, hstopped⟩ := stopped_stoppedPreview
  obtain ⟨-, hrests, hadds⟩ :=
    (stopped_for_good preview stoppedPreview [.takeIn, .close]).1 0 l hl hstopped
  have houtage := ((stopped_for_good Feed.cinema stoppedOutage []).2.1 rfl).2 0
  refine ⟨⟨l, hl, hstopped⟩, hrests, fun m hm => ?_, rfl, rfl, houtage.1, houtage.2⟩
  cases (hadds m hm).2.2.1

/-- **A stop need not take effect at once.** Films that the table is looking at still come in when
their loader is stopped meanwhile, and a fetch may fail, and its tick say so, though the table has
been stopped. -/
theorem not_forall_silent :
    (¬ ∀ (t : Table) (moves : List Move) (i : Nat) (l : Loader) (m : Move),
      let s := (of t).after moves
      s.feed.loaders[i]? = some l → l.stopped = true → ¬ s.Adds i m) ∧
    ¬ ∀ (t : Table) (moves : List Move) (flight : Flight),
      let s := (of t).after moves
      let done := s.step (.event (.land flight.number))
      s.feed.table.stopped = true → s.feed.flight? flight.number = some flight →
        s.allows (.land flight.number) →
          done.answer = .tick .discarded ∨ done.answer = .tick .busy := by
  refine ⟨fun hall => ?_, fun hall => ?_⟩
  · obtain ⟨l, hl, hstopped⟩ := stopped_stoppedPreview
    exact hall preview stoppedPreview 0 l .takeIn hl hstopped adds_stoppedPreview
  · have hlands := hall Feed.cinema stoppedOutage ⟨0, 0, .error (.source "offline")⟩ rfl rfl rfl
    have hfailed : (((of Feed.cinema).after stoppedOutage).step (.event (.land 0))).answer =
        .tick .failed := rfl
    rcases hlands with hlands | hlands <;> cases hfailed.symm.trans hlands

end Scene

end LiveTable.Stream
