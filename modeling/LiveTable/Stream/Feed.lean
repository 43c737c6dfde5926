import LiveTable.Stream.Loader
import LiveTable.Table.Command

/-!
# Feeds

A feed is a table together with the loaders that share it and the fetches under way. What happens to
it is a list of events in any order: ticks start, fetches land or are given up, somebody takes hold
of the table or uses it, loaders are stopped.

* `Flight`: a fetch under way;
* `Feed`: the state of a feed;
* `Event`: what may happen to a feed;
* `Feed.step`: the feed after an event, what the event answers and what was told;
* `Feed.after`: the feed after a list of events.
-/

namespace LiveTable.Stream

/-- A fetch under way: its number, its loader and what will be its answer. -/
structure Flight where
  number : Nat
  loader : Nat
  response : Response

/-- A table, the loaders that share it and the fetches under way. -/
structure Feed where
  table : Table
  /-- How the table is held by somebody who is not a loader. -/
  hold : Hold
  loaders : List Loader
  flights : List Flight
  /-- The number of the next fetch. -/
  next : Nat

/-- What may happen to a feed. -/
inductive Event where
  /-- A new loader joins, with the options of the table. -/
  | join (source : Source) (interval : Option Nat)
  /-- A tick of a loader starts. -/
  | start (loader : Nat)
  /-- The answer to a fetch is there, and its tick ends. -/
  | land (flight : Nat)
  /-- A tick is given up during its fetch. -/
  | abandon (flight : Nat)
  /-- Somebody takes hold of the table or lets it go. -/
  | hold (hold : Hold)
  /-- A loader is stopped. -/
  | stop (loader : Nat)
  /-- Somebody uses the table. -/
  | command (command : Table.Command)

/-- What an event answers. -/
inductive Answer where
  | nothing
  /-- A tick has ended. -/
  | tick (tick : Tick)
  /-- A fetch is under way. -/
  | flight (number : Nat) (latency : Latency)
  | reply (reply : Table.Reply)

/-- The feed after an event, what the event answers and what was told. -/
structure Progress where
  answer : Answer
  feed : Feed
  notes : List Note

namespace Feed

/-- A table without loaders. -/
def of (t : Table) : Feed := ⟨t, .free, [], [], 0⟩

/-- Whether a loader or its table has been stopped. -/
def isStopped (f : Feed) (loader : Nat) : Bool :=
  match f.loaders[loader]? with
  | some l => l.isStopped f.table f.hold
  | none => true

/-- Whether a loader has a fetch under way. -/
def isFetching (f : Feed) (loader : Nat) : Bool :=
  match f.loaders[loader]? with
  | some l => l.fetching
  | none => false

/-- The fetch with a number. -/
def flight? (f : Feed) (number : Nat) : Option Flight :=
  f.flights.find? (·.number = number)

/-- The feed without the fetch with a number. -/
def forget (f : Feed) (number : Nat) : Feed :=
  { f with flights := f.flights.filter (·.number ≠ number) }

/-- The feed with another state of a loader. -/
def setLoader (f : Feed) (i : Nat) (l : Loader) : Feed := { f with loaders := f.loaders.set i l }

/-- A new loader joins. -/
def join (f : Feed) (source : Source) (interval : Option Nat) : Feed :=
  { f with loaders := f.loaders ++ [.ofOptions source f.table.setup.options interval] }

/-- A tick of a loader starts. -/
def start (f : Feed) (i : Nat) : Progress :=
  match f.loaders[i]? with
  | none => ⟨.nothing, f, []⟩
  | some l =>
    match l.start f.table f.hold with
    | (.refused tick, _) => ⟨.tick tick, f, []⟩
    | (.fetching request response latency, l) =>
      let flight : Flight := ⟨f.next, i, response⟩
      ⟨.flight f.next latency,
        { f.setLoader i l with flights := f.flights ++ [flight], next := f.next + 1 },
        [.fetch request]⟩

/-- The answer to a fetch is there, and its tick ends. -/
def land (f : Feed) (number : Nat) : Progress :=
  match f.flight? number with
  | none => ⟨.nothing, f, []⟩
  | some flight =>
    match f.loaders[flight.loader]? with
    | none => ⟨.nothing, f, []⟩
    | some l =>
      let done := l.finish f.table f.hold flight.response
      ⟨.tick done.tick,
        { (f.forget number).setLoader flight.loader done.loader with table := done.table },
        done.notes⟩

/-- A tick is given up during its fetch; its loader is ready for another one. -/
def abandon (f : Feed) (number : Nat) : Feed :=
  match f.flight? number with
  | none => f
  | some flight =>
    match f.loaders[flight.loader]? with
    | none => f
    | some l => (f.forget number).setLoader flight.loader { l with fetching := false }

/-- A loader is stopped. -/
def stop (f : Feed) (i : Nat) : Feed :=
  match f.loaders[i]? with
  | none => f
  | some l =>
    let (l, table) := l.stop f.table f.hold
    { f.setLoader i l with table }

/-- Somebody uses the table. While somebody reads it, nobody else does. -/
def use (f : Feed) (command : Table.Command) : Progress :=
  if f.hold = .shared then ⟨.nothing, f, []⟩
  else
    let done := f.table.perform command
    ⟨.reply done.answer, { f with table := done.table }, done.notices.map .table⟩

/-- The feed after an event, what the event answers and what was told. -/
def step (f : Feed) : Event → Progress
  | .join source interval => ⟨.nothing, f.join source interval, []⟩
  | .start i => f.start i
  | .land number => f.land number
  | .abandon number => ⟨.nothing, f.abandon number, []⟩
  | .hold hold => ⟨.nothing, { f with hold }, []⟩
  | .stop i => ⟨.nothing, f.stop i, []⟩
  | .command command => f.use command

/-- The feed after a list of events. -/
def after (f : Feed) (events : List Event) : Feed := events.foldl (fun f e => (f.step e).feed) f

@[simp] theorem after_nil (f : Feed) : f.after [] = f := rfl

@[simp] theorem after_cons (f : Feed) (e : Event) (events : List Event) :
    f.after (e :: events) = (f.step e).feed.after events := rfl

theorem after_append (f : Feed) (a b : List Event) : f.after (a ++ b) = (f.after a).after b := by
  simp [after]

end Feed

end LiveTable.Stream
