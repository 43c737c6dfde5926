import LiveTable.Proofs.Stream.Exhaustion

/-!
# Deliveries step by step

A tick that delivers rows has the table for itself, but it calls upon others meanwhile. The table
looks at the rows before they come in, and afterwards it writes its page and tells its owner. These
callbacks cannot get at the table. They can get at its loaders, though: they may stop one, start or
give up a tick of one, or wait for a fetch of one to land. Here a delivery is taken apart so that
all of that may happen in the middle of it.

* `Table.takeIn`: rows come in that have been looked at;
* `Delivery`: how far a tick that delivers rows has come;
* `Scene`: a feed and such a tick, if there is one;
* `Move`: what may happen to a scene;
* `Scene.step`, `Scene.after`: the scene after a move, and after a list of moves;
* `Scene.step_cases`: all that a move can do;
* `Scene.Sound`, `Scene.sound_after`: what holds of every scene that moves lead to;
* `Scene.close_of_opens`, `Scene.after_moves`: when nobody interferes, deliveries are those of
  `Feed.step`.
-/

namespace LiveTable

namespace Table

/-- Rows come in that have been looked at. Answers how many there are; none changes nothing. -/
def takeIn (t : Table) (rows : List Value) : Outcome Nat :=
  if rows.isEmpty then ⟨0, t, []⟩
  else
    let t := (t.append rows).renew
    let event : Added := ⟨rows.length, t.rows.length, t.visible.length⟩
    let t := if t.setup.stopsAfter event then t.stop else t
    ⟨rows.length, t, [.added event, .page t.summary]⟩

/-- A batch is looked at, and then rows come in. -/
theorem add_eq_takeIn (t : Table) (batch : List Value) :
    t.add batch = ⟨(t.takeIn (t.receive batch).1).answer, (t.takeIn (t.receive batch).1).table,
      (t.receive batch).2 ++ (t.takeIn (t.receive batch).1).notices⟩ := by
  simp only [add, takeIn]
  split
  · rw [List.append_nil]
  · rfl

end Table

namespace Stream

/-- How far the delivery of rows has come. -/
inductive Phase where
  /-- The table looks at a batch before it comes in. -/
  | looking (batch : List Value)
  /-- So many rows have come in. They are shown, and the owner is told. -/
  | telling (count : Nat)

/-- A tick of a loader that delivers rows. -/
structure Delivery where
  loader : Nat
  phase : Phase

/-- Callbacks are at work. Only a table that looks at rows has one before they come in, and it has
none afterwards if there were none. -/
def Phase.calls (t : Table) : Phase → Bool
  | .looking _ => t.setup.beforeAdd.isSome
  | .telling count => count != 0

/-- The event does not need the table, so callbacks of the table may cause it. -/
def Event.spares : Event → Bool
  | .start _ | .land _ | .abandon _ | .stop _ => true
  | .join _ _ | .hold _ | .command _ => false

/-- The fetch whose rows an event delivers, and the rows: it lands, its loader goes on, and nobody
holds the table. -/
def Feed.opens (f : Feed) : Event → Option (Flight × List Value)
  | .land number =>
    match f.flight? number with
    | none => none
    | some flight =>
      match flight.response with
      | .error _ => none
      | .ok rows =>
        if f.isStopped flight.loader || f.hold ≠ .free then none else some (flight, rows)
  | _ => none

/-- The end of a delivery by which so many rows came in. -/
def Loader.close (l : Loader) (t : Table) (count : Nat) : Loader.Finish :=
  let l := { l with fetching := false }
  if count = 0 ∧ l.limit.isSome then
    let (l, t) := l.stop t .free
    ⟨.exhausted, l, t, []⟩
  else ⟨.appended count, l, t, []⟩

/-- A feed and the tick that delivers rows to its table, if there is one. Meanwhile that tick holds
the table. -/
structure Scene where
  feed : Feed
  delivery : Option Delivery

/-- What may happen to a scene. -/
inductive Move where
  /-- Something happens to the feed, in the middle of a delivery because of a callback. -/
  | event (e : Event)
  /-- The callbacks of the table, which may have a memory of their own, change their minds. -/
  | reconsider (look : List Value → Option (List Value)) (stopsAfter : Table.Added → Bool)
  /-- The table has looked at the rows that are delivered, and rows come in. -/
  | takeIn
  /-- Everybody has been told, and the tick that delivers rows ends. -/
  | close

/-- The moves that make up an event when nobody interferes. -/
def Event.moves : Event → List Move
  | .land number => [.event (.land number), .takeIn, .close]
  | e => [.event e]

namespace Scene

/-- What a move answers, the scene afterwards and what was told. -/
structure Progress where
  answer : Answer
  scene : Scene
  notes : List Note

/-- A table without loaders. -/
def of (t : Table) : Scene := ⟨.of t, none⟩

/-- The event can happen now: nobody delivers rows, or it is the work of a callback. -/
def allows (s : Scene) (e : Event) : Bool :=
  match s.delivery with
  | none => true
  | some d => d.phase.calls s.feed.table && e.spares

/-- Rows of a fetch are about to be delivered. -/
def deliver (s : Scene) (flight : Flight) (batch : List Value) : Scene :=
  ⟨{ s.feed.forget flight.number with hold := .exclusive }, some ⟨flight.loader, .looking batch⟩⟩

/-- Something happens to the feed. If rows are delivered by it, that is begun. -/
def happen (s : Scene) (e : Event) : Progress :=
  if s.allows e then
    match s.feed.opens e with
    | none =>
      let p := s.feed.step e
      ⟨p.answer, { s with feed := p.feed }, p.notes⟩
    | some (flight, batch) =>
      ⟨.nothing, s.deliver flight batch, (s.feed.table.receive batch).2.map .table⟩
  else ⟨.nothing, s, []⟩

/-- The callbacks of the table change their minds. -/
def reconsider (s : Scene) (look : List Value → Option (List Value))
    (stopsAfter : Table.Added → Bool) : Scene :=
  let t := s.feed.table
  { s with feed := { s.feed with
    table := t.withCallbacks (t.setup.beforeAdd.map fun _ => look) stopsAfter } }

/-- Rows come in for the batch that the table has looked at. -/
def takeIn (s : Scene) : Progress :=
  match s.delivery with
  | some ⟨i, .looking batch⟩ =>
    let done := s.feed.table.takeIn (s.feed.table.receive batch).1
    ⟨.nothing, ⟨{ s.feed with table := done.table }, some ⟨i, .telling done.answer⟩⟩,
      done.notices.map .table⟩
  | _ => ⟨.nothing, s, []⟩

/-- The tick that has delivered rows ends and lets the table go. -/
def close (s : Scene) : Progress :=
  match s.delivery with
  | some ⟨i, .telling count⟩ =>
    match s.feed.loaders[i]? with
    | none => ⟨.nothing, s, []⟩
    | some l =>
      let done := l.close s.feed.table count
      ⟨.tick done.tick,
        ⟨{ s.feed.setLoader i done.loader with table := done.table, hold := .free }, none⟩,
        done.notes⟩
  | _ => ⟨.nothing, s, []⟩

/-- The scene after a move, what the move answers and what was told. -/
def step (s : Scene) : Move → Progress
  | .event e => s.happen e
  | .reconsider look stopsAfter => ⟨.nothing, s.reconsider look stopsAfter, []⟩
  | .takeIn => s.takeIn
  | .close => s.close

/-- The scene after a list of moves. -/
def after (s : Scene) (moves : List Move) : Scene := moves.foldl (fun s m => (s.step m).scene) s

@[simp] theorem after_nil (s : Scene) : s.after [] = s := rfl

@[simp] theorem after_cons (s : Scene) (m : Move) (moves : List Move) :
    s.after (m :: moves) = (s.step m).scene.after moves := rfl

theorem after_append (s : Scene) (a b : List Move) : s.after (a ++ b) = (s.after a).after b := by
  simp [after]

end Scene

/-! ### Landings -/

/-- Nobody but the holder of a table changes it. -/
theorem Loader.table_finish_of_held (l : Loader) (t : Table) {hold : Hold} (h : hold ≠ .free)
    (response : Response) : (l.finish t hold response).table = t := by
  rcases l.finish_cases t hold response with ⟨tick, notes, -, hfinish⟩ | ⟨rows, -, hfree, -, -⟩ |
    ⟨fault, -, -, hfinish⟩
  · rw [hfinish]
  · exact absurd hfree h
  · rw [hfinish, fail, stop, if_neg h]

theorem Loader.notes_close (l : Loader) (t : Table) (count : Nat) :
    (l.close t count).notes = [] := by
  simp only [close]
  split <;> rfl

/-- Rows are delivered by adding them and closing. -/
theorem Loader.deliver_eq_close (l : Loader) (t : Table) (rows : List Value) :
    { l with fetching := false }.deliver t rows =
      { l.close (t.add rows).table (t.add rows).answer with
        notes := (t.add rows).notices.map .table } := by
  simp only [deliver, close]
  split <;> rfl

namespace Feed

variable {f : Feed} {e : Event} {flight : Flight} {rows : List Value}

theorem Landing.opens {number : Nat} {l : Loader} (h : f.Landing number flight l rows) :
    f.opens (.land number) = some (flight, rows) := by
  have hgoes : f.isStopped flight.loader = false := by
    rw [isStopped, h.loader]
    exact h.goesOn
  simp only [Feed.opens, h.underWay, h.answered, hgoes, h.free, ne_eq, not_true_eq_false,
    decide_false, Bool.or_false, Bool.false_eq_true, if_false]

/-- Rows are delivered when a fetch lands, its loader goes on and nobody holds the table. -/
theorem exists_landing (h : f.opens e = some (flight, rows)) :
    ∃ l, e = .land flight.number ∧ f.Landing flight.number flight l rows := by
  cases e with
  | land number =>
    cases hflight : f.flight? number with
    | none => simp [opens, hflight] at h
    | some other =>
      cases hresponse : other.response with
      | error fault => simp [opens, hflight, hresponse] at h
      | ok brought =>
        cases hl : f.loaders[other.loader]? with
        | none => simp [opens, hflight, hresponse, isStopped, hl] at h
        | some l =>
          have hnumber : other.number = number := by simpa using List.find?_some hflight
          simp only [opens, hflight, hresponse, isStopped, hl] at h
          split at h
          · cases h
          · rename_i hgoes
            cases h
            rw [Bool.or_eq_true, not_or, Bool.not_eq_true, decide_eq_true_eq, ne_eq,
              Decidable.not_not] at hgoes
            rw [← hnumber] at hflight ⊢
            exact ⟨l, rfl, hflight, hl, hresponse, hgoes.1, hgoes.2⟩
  | _ => cases h

/-- Only who holds a table lets it go. -/
theorem hold_step (f : Feed) {e : Event} (he : ∀ hold, e ≠ .hold hold) :
    (f.step e).feed.hold = f.hold := by
  cases e with
  | join source interval => rfl
  | start i =>
    show (f.start i).feed.hold = f.hold
    unfold Feed.start
    split
    · rfl
    · split <;> rfl
  | land number =>
    show (f.land number).feed.hold = f.hold
    unfold Feed.land
    split
    · rfl
    · split <;> rfl
  | abandon number =>
    show (f.abandon number).hold = f.hold
    unfold Feed.abandon
    split
    · rfl
    · split <;> rfl
  | hold hold => exact absurd rfl (he hold)
  | stop i =>
    show (f.stop i).hold = f.hold
    unfold Feed.stop
    split <;> rfl
  | command command =>
    show (f.use command).feed.hold = f.hold
    unfold Feed.use
    split <;> rfl

/-- An event that does not need the table leaves it alone when somebody holds it. -/
theorem table_step_of_spares (he : e.spares) (hhold : f.hold ≠ .free) :
    (f.step e).feed.table = f.table := by
  cases e with
  | start i => exact f.table_start i
  | land number =>
    show (f.land number).feed.table = f.table
    unfold Feed.land
    split
    · rfl
    · split
      · rfl
      · exact Loader.table_finish_of_held _ _ hhold _
  | abandon number => exact f.table_abandon number
  | stop i =>
    show (f.stop i).table = f.table
    unfold Feed.stop
    split
    · rfl
    · simp only [Loader.stop, if_neg hhold]
  | join | hold | command => cases he

end Feed

/-! ### What a move can do -/

namespace Scene

variable {s : Scene}

/-- An event from outside happens while nobody delivers rows; in the middle of a delivery there are
only those of callbacks. -/
theorem spares_of_allows {e : Event} (h : s.allows e) {d : Delivery} (hd : s.delivery = some d) :
    d.phase.calls s.feed.table ∧ e.spares := by
  simpa only [allows, hd, Bool.and_eq_true] using h

/-- **All that a move can do**: nothing, it is an event, rows are about to be delivered, the
callbacks change their minds, rows come in, or a delivery ends. -/
theorem step_cases (s : Scene) (m : Move) :
    (s.step m).scene = s ∨
    (∃ e, m = .event e ∧ s.allows e ∧ s.feed.opens e = none ∧
      (s.step m).scene = { s with feed := (s.feed.step e).feed }) ∨
    (∃ e flight batch, m = .event e ∧ s.feed.opens e = some (flight, batch) ∧
      (s.step m).scene = s.deliver flight batch) ∨
    (∃ look stopsAfter, m = .reconsider look stopsAfter ∧
      (s.step m).scene = s.reconsider look stopsAfter) ∨
    (∃ i batch, m = .takeIn ∧ s.delivery = some ⟨i, .looking batch⟩ ∧
      (s.step m).scene = ⟨{ s.feed with table := (s.feed.table.add batch).table },
        some ⟨i, .telling (s.feed.table.add batch).answer⟩⟩) ∨
    (∃ i count l, m = .close ∧ s.delivery = some ⟨i, .telling count⟩ ∧
      s.feed.loaders[i]? = some l ∧
      (s.step m).scene = ⟨{ s.feed.setLoader i (l.close s.feed.table count).loader with
        table := (l.close s.feed.table count).table, hold := .free }, none⟩) := by
  cases m with
  | event e =>
    simp only [step, happen]
    by_cases hallows : s.allows e
    · rw [if_pos hallows]
      split
      · rename_i hopens
        exact .inr (.inl ⟨e, rfl, hallows, hopens, rfl⟩)
      · rename_i flight batch hopens
        exact .inr (.inr (.inl ⟨e, flight, batch, rfl, hopens, rfl⟩))
    · rw [if_neg hallows]
      exact .inl rfl
  | reconsider look stopsAfter => exact .inr (.inr (.inr (.inl ⟨look, stopsAfter, rfl, rfl⟩)))
  | takeIn =>
    rcases hd : s.delivery with - | ⟨i, batch | count⟩
    · exact .inl (by simp only [step, takeIn, hd])
    · refine .inr (.inr (.inr (.inr (.inl ⟨i, batch, rfl, rfl, ?_⟩))))
      simp only [step, takeIn, hd, Table.add_eq_takeIn]
    · exact .inl (by simp only [step, takeIn, hd])
  | close =>
    rcases hd : s.delivery with - | ⟨i, batch | count⟩
    · exact .inl (by simp only [step, close, hd])
    · exact .inl (by simp only [step, close, hd])
    · cases hl : s.feed.loaders[i]? with
      | none => exact .inl (by simp only [step, close, hd, hl])
      | some l =>
        refine .inr (.inr (.inr (.inr (.inr ⟨i, count, l, rfl, rfl, hl, ?_⟩))))
        simp only [step, close, hd, hl]

/-! ### What callbacks leave alone -/

/-- In the middle of a delivery the tick that delivers holds the table. While the table looks at
rows, it has not been stopped, and if nobody looks, neither has their loader. -/
structure Sound (s : Scene) : Prop where
  held : ∀ d, s.delivery = some d → s.feed.hold = .exclusive
  tableGoesOn : ∀ i batch, s.delivery = some ⟨i, .looking batch⟩ → s.feed.table.stopped = false
  loaderGoesOn : ∀ i batch l, s.delivery = some ⟨i, .looking batch⟩ →
    s.feed.table.setup.beforeAdd = none → s.feed.loaders[i]? = some l → l.stopped = false

theorem sound_of_idle (h : s.delivery = none) : s.Sound where
  held _ hd := by cases h.symm.trans hd
  tableGoesOn _ _ hd := by cases h.symm.trans hd
  loaderGoesOn _ _ _ hd := by cases h.symm.trans hd

/-- Rows are about to be delivered by a loader that goes on, to a table that does. -/
theorem sound_deliver {e : Event} {flight : Flight} {batch : List Value}
    (h : s.feed.opens e = some (flight, batch)) : (s.deliver flight batch).Sound := by
  obtain ⟨l, -, hlanding⟩ := Feed.exists_landing h
  have hgoes := hlanding.goesOn
  rw [hlanding.free, Loader.isStopped, Bool.or_eq_false_iff] at hgoes
  obtain ⟨hloader, htable⟩ := hgoes
  refine ⟨fun _ _ => rfl, fun _ _ _ => htable, fun i batch' m hd _ hm => ?_⟩
  cases hd
  cases hlanding.loader.symm.trans hm
  exact hloader

/-- A callback leaves the table alone, and a loader whose rows nobody looks at. -/
theorem Sound.event (h : s.Sound) {e : Event} (hallows : s.allows e) :
    { s with feed := (s.feed.step e).feed }.Sound := by
  cases hd : s.delivery with
  | none => exact sound_of_idle rfl
  | some d =>
    obtain ⟨hcalls, hspares⟩ := spares_of_allows hallows hd
    have hhold := h.held d hd
    have htable : (s.feed.step e).feed.table = s.feed.table :=
      Feed.table_step_of_spares hspares (hhold ▸ Hold.noConfusion)
    have hheld : (s.feed.step e).feed.hold = .exclusive := by
      rw [Feed.hold_step, hhold]
      rintro hold rfl
      cases hspares
    refine ⟨fun _ _ => hheld, fun i batch hlooking => ?_, fun i batch l hlooking hlook => ?_⟩
    · rw [htable]
      exact h.tableGoesOn i batch (hd.trans hlooking)
    · -- Somebody looks, or else there would be no callback.
      cases hlooking
      rw [htable] at hlook
      rw [Phase.calls, hlook] at hcalls
      cases hcalls

/-- Whatever happens keeps a scene sound. -/
theorem Sound.step (h : s.Sound) (m : Move) : (s.step m).scene.Sound := by
  rcases s.step_cases m with heq | ⟨e, -, hallows, -, heq⟩ | ⟨e, flight, batch, -, hopens, heq⟩ |
    ⟨look, stopsAfter, -, heq⟩ | ⟨i, batch, -, hd, heq⟩ | ⟨i, count, l, -, -, -, heq⟩ <;> rw [heq]
  · exact h
  · exact h.event hallows
  · exact sound_deliver hopens
  · refine ⟨h.held, h.tableGoesOn, fun i batch l hd hlook => h.loaderGoesOn i batch l hd ?_⟩
    exact Option.map_eq_none_iff.1 hlook
  · refine ⟨fun _ _ => h.held _ hd, fun _ _ hnone => ?_, fun _ _ _ hnone => ?_⟩ <;> cases hnone
  · exact sound_of_idle rfl

theorem Sound.after (h : s.Sound) (moves : List Move) : (s.after moves).Sound := by
  induction moves generalizing s with
  | nil => exact h
  | cons m moves ih => exact ih (h.step m)

/-- **Every scene that moves lead to is sound.** -/
theorem sound_after (t : Table) (moves : List Move) : ((of t).after moves).Sound :=
  (sound_of_idle rfl).after moves

/-! ### Nobody interferes -/

/-- **When nobody interferes, a delivery is that of the feed.** It answers, changes and tells the
same as if it were a single event. -/
theorem close_of_opens {f : Feed} {e : Event} {flight : Flight} {batch : List Value}
    (h : f.opens e = some (flight, batch)) :
    let opened := (⟨f, none⟩ : Scene).step (.event e)
    let came := opened.scene.step .takeIn
    let closed := came.scene.step .close
    closed.answer = (f.step e).answer ∧ closed.scene = ⟨(f.step e).feed, none⟩ ∧
      opened.notes ++ came.notes ++ closed.notes = (f.step e).notes := by
  obtain ⟨l, rfl, hlanding⟩ := Feed.exists_landing h
  intro opened came closed
  let done := l.close (f.table.add batch).table (f.table.add batch).answer
  have hopened : opened = ⟨.nothing, deliver ⟨f, none⟩ flight batch,
      (f.table.receive batch).2.map .table⟩ := by
    simp only [opened, step, happen, allows, if_true, h]
  have hcame : came = ⟨.nothing,
      ⟨{ f.forget flight.number with
          table := (f.table.add batch).table, hold := .exclusive },
        some ⟨flight.loader, .telling (f.table.add batch).answer⟩⟩,
      (f.table.takeIn (f.table.receive batch).1).notices.map .table⟩ := by
    simp only [came, hopened, step, takeIn, deliver, Feed.forget, Table.add_eq_takeIn]
  have hclosed : closed = ⟨.tick done.tick,
      ⟨{ (f.forget flight.number).setLoader flight.loader done.loader with
          table := done.table, hold := .free }, none⟩, []⟩ := by
    simp only [closed, hcame, step, close, Feed.forget, hlanding.loader, Feed.setLoader, done,
      Loader.notes_close]
  have hstep : f.step (.land flight.number) = ⟨.tick done.tick,
      { (f.forget flight.number).setLoader flight.loader done.loader with table := done.table },
      (f.table.add batch).notices.map .table⟩ := by
    have hgoes := hlanding.goesOn
    rw [hlanding.free] at hgoes
    simp only [Feed.step, Feed.land, hlanding.underWay, hlanding.loader, hlanding.answered,
      hlanding.free, Loader.finish_eq_deliver hgoes, Loader.deliver_eq_close, done]
  rw [hopened, hcame, hclosed, hstep]
  refine ⟨rfl, ?_, ?_⟩
  · simp only [Feed.setLoader, Feed.forget, hlanding.free]
  · rw [List.append_nil, ← List.map_append, Table.add_eq_takeIn]

theorem after_moves_event (f : Feed) (e : Event) :
    (⟨f, none⟩ : Scene).after e.moves = ⟨(f.step e).feed, none⟩ := by
  cases hopens : f.opens e with
  | some opened =>
    obtain ⟨l, rfl, -⟩ := Feed.exists_landing hopens
    exact (close_of_opens hopens).2.1
  | none =>
    have hstep : ((⟨f, none⟩ : Scene).step (.event e)).scene = ⟨(f.step e).feed, none⟩ := by
      simp only [step, happen, allows, if_true, hopens]
    cases e with
    | land number => rw [Event.moves, after_cons, hstep]; rfl
    | _ => exact hstep

/-- **When nobody interferes, the scene is that of the feed**, event after event. -/
theorem after_moves (f : Feed) (events : List Event) :
    (⟨f, none⟩ : Scene).after (events.flatMap Event.moves) = ⟨f.after events, none⟩ := by
  induction events generalizing f with
  | nil => rfl
  | cons e events ih => rw [List.flatMap_cons, after_append, after_moves_event, ih, Feed.after_cons]

end Scene

end Stream

end LiveTable
