import LiveTable.Proofs.Stream.Halves
import LiveTable.Proofs.Table.Frame
import LiveTable.Proofs.Table.Reachable
import LiveTable.Stream.Feed

/-!
# Following a source

One loader moves the rows of a list into a table to which nobody else adds any. Whatever happens in
between and in whatever order, the table holds the first rows of the list, and the loader finds the
list exhausted only when the table holds all of it.

* `Event.leavesRows`: an event that leaves it to the loaders that are there to add rows;
* `Loader.Awaits`: what a loader of a list has under way for a table;
* `Feed.Follows`: a feed with such a loader, whose table holds the first rows of the list;
* `Follows.start`, `Follows.land`, …: each event leaves a feed following;
* `Follows.after`: so do all events, one after the other;
* `table_step_cases`: what an event of any feed makes of the table;
* `rows_prefix_step`: no event of any feed takes rows away;
* `reading_rows`: what following means for the rows, at any time.

A fetch under way was asked for the rows behind those of the table, and it stays the only one, so
the table still has the same number of rows when the answer is there.
-/

namespace LiveTable.Stream

/-- The event leaves it to the loaders that are there to add rows. -/
def Event.leavesRows : Event → Bool
  | .join _ _ => false
  | .command (.add _) => false
  | _ => true

/-- The rows of a list that come next for a table, so many at most. -/
def upcoming (all : List Value) (n : Nat) (t : Table) : List Value :=
  (all.drop t.rows.length).take n

theorem append_upcoming {all : List Value} {t : Table} (h : t.rows <+: all) (n : Nat) :
    t.rows ++ upcoming all n t <+: all := by
  obtain ⟨rest, rfl⟩ := h
  rw [upcoming, List.drop_left, List.prefix_append_right_inj]
  exact List.take_prefix n rest

theorem eq_of_upcoming_eq_nil {all : List Value} {t : Table} (h : t.rows <+: all) {n : Nat}
    (hn : 1 ≤ n) (hnone : upcoming all n t = []) : t.rows = all := by
  obtain ⟨rest, rfl⟩ := h
  rw [upcoming, List.drop_left, List.take_eq_nil_iff] at hnone
  rcases hnone with hzero | rfl
  · omega
  · rw [List.append_nil]

/-- **A tick that ends with the upcoming rows adds them or nothing**, and the list is exhausted only
when the table holds all of it. -/
theorem Loader.finish_upcoming (l : Loader) {all : List Value} {t : Table} (n : Nat) (hold : Hold)
    (hlook : t.setup.beforeAdd = none) (hrows : t.rows <+: all) :
    (l.finish t hold (.ok (upcoming all n t))).table.setup = t.setup ∧
      (l.finish t hold (.ok (upcoming all n t))).table.rows <+: all ∧
      (1 ≤ n → (l.finish t hold (.ok (upcoming all n t))).tick = .exhausted →
        (l.finish t hold (.ok (upcoming all n t))).table.rows = all) := by
  rcases l.finish_cases t hold (.ok (upcoming all n t)) with ⟨tick, notes, htick, h⟩ |
    ⟨rows, hrows', -, -, h⟩ | ⟨fault, hfault, -, -⟩
  · rw [h]
    refine ⟨rfl, hrows, fun _ hexhausted => ?_⟩
    rcases htick with rfl | rfl <;> cases hexhausted
  · obtain rfl : upcoming all n t = rows := Except.ok.inj hrows'
    have hreceive : t.receive (upcoming all n t) = (upcoming all n t, []) := by
      rw [Table.receive, hlook]
    rw [h, Loader.setup_deliver, Loader.rows_deliver, Loader.deliver_eq_exhausted_iff, hreceive]
    refine ⟨rfl, append_upcoming hrows n, fun hn hexhausted => ?_⟩
    rw [hexhausted.1, List.append_nil]
    exact eq_of_upcoming_eq_nil hrows hn hexhausted.1
  · cases hfault

/-- A loader that fetches so many rows of a list at a time has the upcoming ones under way or
nothing. -/
structure Loader.Awaits (all : List Value) (n : Nat) (t : Table) (flights : List Flight)
    (l : Loader) : Prop where
  source : l.source = .memory all
  limit : l.limit = some n
  idle : l.fetching = false → flights = []
  busy : l.fetching = true → ∃ number, flights = [⟨number, 0, .ok (upcoming all n t)⟩]

/-- The rows of the table matter, not how they are shown, and not whether the loader is stopped. -/
theorem Loader.Awaits.of_keeps {all : List Value} {n : Nat} {t u : Table} {flights : List Flight}
    {l : Loader} (h : l.Awaits all n t flights) (hkeeps : t.Keeps u) (stopped : Bool) :
    { l with stopped }.Awaits all n u flights where
  source := h.source
  limit := h.limit
  idle := h.idle
  busy := by
    rw [upcoming, hkeeps.rows]
    exact h.busy

namespace Feed

/-- One loader moves the rows of a list into the table, which holds the first ones. -/
structure Follows (all : List Value) (n : Nat) (f : Feed) : Prop where
  look : f.table.setup.beforeAdd = none
  rows : f.table.rows <+: all
  loader : ∃ l, f.loaders = [l] ∧ l.Awaits all n f.table f.flights

/-! ### Rows stay -/

theorem table_start (f : Feed) (i : Nat) : (f.start i).feed.table = f.table := by
  unfold Feed.start
  split
  · rfl
  · split <;> rfl

theorem table_abandon (f : Feed) (number : Nat) : (f.abandon number).table = f.table := by
  unfold Feed.abandon
  split
  · rfl
  · split <;> rfl

/-- What an event makes of the table: nothing, it stops it, it ends a tick, or it is a command. -/
theorem table_step_cases (f : Feed) (e : Event) :
    (f.step e).feed.table = f.table ∨ (f.step e).feed.table = f.table.stop ∨
      (∃ number flight l, e = .land number ∧ f.flight? number = some flight ∧
        f.loaders[flight.loader]? = some l ∧
        (f.step e).feed.table = (l.finish f.table f.hold flight.response).table) ∨
      ∃ command, e = .command command ∧
        (f.step e).feed.table = (f.table.perform command).table := by
  cases e with
  | join source interval => exact .inl rfl
  | start i => exact .inl (f.table_start i)
  | land number =>
    cases hflight : f.flight? number with
    | none => exact .inl (by simp only [step, Feed.land, hflight])
    | some flight =>
      cases hl : f.loaders[flight.loader]? with
      | none => exact .inl (by simp only [step, Feed.land, hflight, hl])
      | some l =>
        exact .inr (.inr (.inl ⟨number, flight, l, rfl, hflight, hl,
          by simp only [step, Feed.land, hflight, hl]⟩))
  | abandon number => exact .inl (f.table_abandon number)
  | hold hold => exact .inl rfl
  | stop i =>
    simp only [step, Feed.stop, Loader.stop]
    split
    · exact .inl rfl
    · dsimp only
      split
      · exact .inr (.inl rfl)
      · exact .inl rfl
  | command command =>
    simp only [step, Feed.use]
    split
    · exact .inl rfl
    · exact .inr (.inr (.inr ⟨command, rfl, rfl⟩))

/-- **No event takes a row away or puts one before others.** -/
theorem rows_prefix_step (f : Feed) (e : Event) :
    f.table.rows <+: (f.step e).feed.table.rows := by
  rcases f.table_step_cases e with h | h | ⟨number, flight, l, -, -, -, h⟩ | ⟨command, -, h⟩
  · exact ⟨[], (List.append_nil _).trans (congrArg Table.rows h).symm⟩
  · exact ⟨[], (List.append_nil _).trans (congrArg Table.rows h).symm⟩
  · rw [h]
    exact l.rows_prefix_finish _ _ _
  · rw [h]
    exact f.table.rows_prefix_perform command

/-! ### What each event leaves following -/

variable {all : List Value} {n : Nat} {f : Feed}

theorem Follows.of_idle {l : Loader} (hlook : f.table.setup.beforeAdd = none)
    (hrows : f.table.rows <+: all) (hloaders : f.loaders = [l]) (hsource : l.source = .memory all)
    (hlimit : l.limit = some n) (hidle : l.fetching = false) (hflights : f.flights = []) :
    f.Follows all n :=
  ⟨hlook, hrows, l, hloaders, hsource, hlimit, fun _ => hflights,
    fun hbusy => absurd hbusy (by rw [hidle]; exact Bool.false_ne_true)⟩

theorem Follows.of_keeps (h : f.Follows all n) {t : Table} (hkeeps : f.table.Keeps t)
    (hold : Hold) : { f with table := t, hold }.Follows all n := by
  obtain ⟨l, hloaders, hawaits⟩ := h.loader
  refine ⟨?_, ?_, l, hloaders, hawaits.of_keeps hkeeps l.stopped⟩
  · show t.setup.beforeAdd = none
    rw [hkeeps.setup, h.look]
  · show t.rows <+: all
    rw [hkeeps.rows]
    exact h.rows

theorem Follows.start (h : f.Follows all n) (i : Nat) : (f.start i).feed.Follows all n := by
  obtain ⟨l, hloaders, hawaits⟩ := h.loader
  cases i with
  | succ i => simpa [Feed.start, hloaders] using h
  | zero =>
    simp only [Feed.start, hloaders, List.getElem?_cons_zero]
    rcases l.start_cases f.table f.hold with ⟨tick, -, hstart⟩ | ⟨-, hidle, -, hstart⟩
    · rw [hstart]
      exact h
    · rw [hstart, hawaits.source, Source.fetch_memory]
      refine ⟨h.look, h.rows, { l with source := .memory all, fetching := true }, ?_,
        rfl, hawaits.limit, ?_, ?_⟩
      · show f.loaders.set 0 _ = _
        rw [hloaders, List.set_cons_zero]
      · rintro ⟨⟩
      · intro _
        refine ⟨f.next, ?_⟩
        dsimp only
        rw [hawaits.idle hidle, Loader.request, hawaits.limit]
        rfl

/-- The only fetch under way is the one for the upcoming rows. -/
theorem Follows.flight (h : f.Follows all n) {number : Nat} {flight : Flight}
    (hflight : f.flight? number = some flight) :
    ∃ l, f.loaders = [l] ∧ l.source = .memory all ∧ l.limit = some n ∧
      flight = ⟨number, 0, .ok (upcoming all n f.table)⟩ ∧ (f.forget number).flights = [] := by
  obtain ⟨l, hloaders, hawaits⟩ := h.loader
  refine ⟨l, hloaders, hawaits.source, hawaits.limit, ?_⟩
  cases hfetching : l.fetching with
  | false => simp [flight?, hawaits.idle hfetching] at hflight
  | true =>
    obtain ⟨k, hk⟩ := hawaits.busy hfetching
    simp only [flight?, hk, List.find?_singleton] at hflight
    split at hflight
    · rename_i hnumber
      cases hflight
      simp_all [forget]
    · cases hflight

theorem Follows.land (h : f.Follows all n) (number : Nat) :
    (f.land number).feed.Follows all n := by
  unfold Feed.land
  cases hflight : f.flight? number with
  | none => exact h
  | some flight =>
    obtain ⟨l, hloaders, hsource, hlimit, rfl, hflights⟩ := h.flight hflight
    simp only [hloaders, List.getElem?_cons_zero]
    -- The answer holds the rows behind those of the table as it is now, so they fit if added.
    obtain ⟨hsetup, hrows, -⟩ := l.finish_upcoming n f.hold h.look h.rows
    obtain ⟨stopped, hloader⟩ := l.finish_loader f.table f.hold (.ok (upcoming all n f.table))
    refine .of_idle ?_ hrows (l := { l with stopped, fetching := false }) ?_ hsource hlimit rfl
      hflights
    · rw [hsetup, h.look]
    · show f.loaders.set 0 _ = _
      rw [hloaders, List.set_cons_zero, hloader]

theorem Follows.abandon (h : f.Follows all n) (number : Nat) :
    (f.abandon number).Follows all n := by
  unfold Feed.abandon
  cases hflight : f.flight? number with
  | none => exact h
  | some flight =>
    obtain ⟨l, hloaders, hsource, hlimit, rfl, hflights⟩ := h.flight hflight
    simp only [hloaders, List.getElem?_cons_zero]
    refine .of_idle h.look h.rows (l := { l with fetching := false }) ?_ hsource hlimit rfl hflights
    show f.loaders.set 0 _ = _
    rw [hloaders, List.set_cons_zero]

theorem Follows.stop (h : f.Follows all n) (i : Nat) : (f.stop i).Follows all n := by
  obtain ⟨l, hloaders, hawaits⟩ := h.loader
  cases i with
  | succ i => simpa [Feed.stop, hloaders] using h
  | zero =>
    have hkeeps : f.table.Keeps (if f.hold = .free then f.table.stop else f.table) := by
      split <;> exact ⟨rfl, rfl⟩
    have htable := h.of_keeps hkeeps f.hold
    simp only [Feed.stop, hloaders, List.getElem?_cons_zero]
    refine ⟨htable.look, htable.rows, { l with stopped := true }, ?_, hawaits.of_keeps hkeeps true⟩
    show f.loaders.set 0 _ = _
    rw [hloaders, List.set_cons_zero]
    rfl

theorem Follows.use (h : f.Follows all n) {command : Table.Command}
    (hcommand : ∀ rows, command ≠ .add rows) : (f.use command).feed.Follows all n := by
  unfold Feed.use
  split
  · exact h
  · exact h.of_keeps (Table.keeps_perform f.table hcommand) f.hold

/-- **Each event that leaves it to the loader to add rows leaves a feed following.** -/
theorem Follows.step (h : f.Follows all n) {e : Event} (he : e.leavesRows) :
    (f.step e).feed.Follows all n := by
  cases e with
  | join source interval => cases he
  | start i => exact h.start i
  | land number => exact h.land number
  | abandon number => exact h.abandon number
  | hold hold => exact h.of_keeps ⟨rfl, rfl⟩ hold
  | stop i => exact h.stop i
  | command command =>
    refine h.use fun rows hadd => ?_
    rw [hadd] at he
    cases he

/-- **A feed follows whatever happens, in any order.** -/
theorem Follows.after (h : f.Follows all n) {events : List Event}
    (hevents : ∀ e ∈ events, e.leavesRows) : (f.after events).Follows all n := by
  induction events generalizing f with
  | nil => exact h
  | cons e events ih =>
    rw [List.forall_mem_cons] at hevents
    exact ih (h.step hevents.1) hevents.2

/-- The list is found exhausted only when the table holds all of it. -/
theorem Follows.rows_eq_of_exhausted (h : f.Follows all n) (hn : 1 ≤ n) {e : Event}
    (hanswer : (f.step e).answer = .tick .exhausted) : (f.step e).feed.table.rows = all := by
  obtain ⟨l, hloaders, -⟩ := h.loader
  -- Only the end of a tick answers so.
  cases e with
  | start i =>
    cases i with
    | succ i => simp [Feed.step, Feed.start, hloaders] at hanswer
    | zero =>
      simp only [Feed.step, Feed.start, hloaders, List.getElem?_cons_zero] at hanswer
      rcases l.start_cases f.table f.hold with ⟨tick, htick, hstart⟩ | ⟨-, -, -, hstart⟩
      · rw [hstart] at hanswer
        rcases htick with rfl | rfl <;> cases hanswer
      · rw [hstart] at hanswer
        cases hanswer
  | land number =>
    cases hflight : f.flight? number with
    | none => simp [Feed.step, Feed.land, hflight] at hanswer
    | some flight =>
      obtain ⟨l, hloaders, -, -, rfl, -⟩ := h.flight hflight
      obtain ⟨-, -, hrows⟩ := l.finish_upcoming n f.hold h.look h.rows
      simp only [Feed.step, Feed.land, hflight, hloaders, List.getElem?_cons_zero] at hanswer ⊢
      exact hrows hn (Answer.tick.inj hanswer)
  | command command =>
    simp only [Feed.step, Feed.use] at hanswer
    split at hanswer <;> cases hanswer
  | _ => cases hanswer

/-- The feed after events once a loader of a list has joined a table. -/
def reading (t : Table) (all : List Value) (interval : Option Nat) (events : List Event) : Feed :=
  ((Feed.of t).join (.memory all) interval).after events

theorem follows_reading {t : Table} (hlimit : t.setup.options.fetchLimit = some n)
    (hlook : t.setup.beforeAdd = none) (hrows : t.rows <+: all) (interval : Option Nat)
    {events : List Event} (hevents : ∀ e ∈ events, e.leavesRows) :
    (reading t all interval events).Follows all n := by
  refine Follows.after ?_ hevents
  exact .of_idle hlook hrows rfl rfl hlimit rfl rfl

/-- **A table to which only the loader of a list adds rows holds the first rows of that list at any
time**, in order and each once, and it loses none of those it has. The list is found exhausted only
when the table holds all of it. -/
theorem reading_rows {t : Table} (hn : 1 ≤ n) (hlimit : t.setup.options.fetchLimit = some n)
    (hlook : t.setup.beforeAdd = none) (hrows : t.rows <+: all) (interval : Option Nat)
    {events : List Event} (hevents : ∀ e ∈ events, e.leavesRows) :
    (reading t all interval events).table.rows <+: all ∧
      ∀ e, (reading t all interval events).table.rows <+:
          ((reading t all interval events).step e).feed.table.rows ∧
        (((reading t all interval events).step e).answer = .tick .exhausted →
          ((reading t all interval events).step e).feed.table.rows = all) := by
  have hfollows := follows_reading hlimit hlook hrows interval hevents
  exact ⟨hfollows.rows, fun e =>
    ⟨rows_prefix_step _ e, fun hanswer => hfollows.rows_eq_of_exhausted hn hanswer⟩⟩

/-- A table for films that come two at a time. -/
def cinema : Table :=
  .blank ⟨{ Table.Options.standard with fetchLimit := some 2 }, fun row place =>
    toString place ++ ". " ++ (row.get "name").display ++ "\n", none, fun _ => false⟩ []

/-- Two ticks at once, an answer that comes while the table is held, a tick that is given up, and
another page during a fetch. -/
def evening : List Event :=
  [.start 0, .start 0, .hold .shared, .land 0, .hold .free, .start 0, .abandon 1, .start 0, .land 2,
    .start 0, .command (.goTo .next), .land 3, .start 0]

theorem reading_rows_evening :
    (∀ e ∈ evening, e.leavesRows) ∧
      (reading cinema Table.films.rows none evening).table.rows <+: Table.films.rows ∧
      ((reading cinema Table.films.rows none evening).step (.land 4)).answer = .tick .exhausted ∧
      ((reading cinema Table.films.rows none evening).step (.land 4)).feed.table.rows =
        Table.films.rows := by
  have hevening : ∀ e ∈ evening, e.leavesRows := by decide
  have hexhausted : ((reading cinema Table.films.rows none evening).step (.land 4)).answer =
      .tick .exhausted := rfl
  have hprefix : cinema.rows <+: Table.films.rows := List.nil_prefix
  have hrows := reading_rows (n := 2) (by decide) rfl rfl hprefix none hevening
  exact ⟨hevening, hrows.1, hexhausted, (hrows.2 (.land 4)).2 hexhausted⟩

end Feed

end LiveTable.Stream
