import LiveTable.Stream.Source
import LiveTable.Table.Basic
import LiveTable.Text.Duration

/-!
# Loaders

A loader moves rows from a source into a table, one fetch at a time. A tick of it has two halves:
it starts with a look at the table and a fetch, and it ends, when the answer has come, with another
look at the table and the rows in it. Anything may happen to the table in between.

* `Hold`: how the table is held by somebody else when a tick looks at it;
* `Tick`: the outcome of a tick;
* `Loader`: the state of a loader;
* `Loader.isStopped`, `Loader.stop`: a loader stops for good, and its table with it;
* `Loader.start`, `Loader.finish`: the two halves of a tick.

A loader that is fetching refuses another tick, and each way out of a tick makes it ready for the
next one. The offset of a fetch is the number of rows of the table at its start; rows that cannot be
added are fetched once more.
-/

namespace LiveTable.Stream

/-- How the table is held by somebody else. -/
inductive Hold where
  | free
  /-- Somebody reads it: it can be read but not changed. -/
  | shared
  /-- Somebody changes it: it can be neither read nor changed. -/
  | exclusive
  deriving DecidableEq, Repr

/-- The outcome of a tick. -/
inductive Tick where
  /-- Rows were added. -/
  | appended (count : Nat)
  /-- Another fetch was under way, or the table was held; nothing was added. -/
  | busy
  /-- The loader had been stopped; nothing was done. -/
  | stopped
  /-- The source had no more rows; the loader stopped. -/
  | exhausted
  /-- The fetch failed; the loader stopped. -/
  | failed
  /-- The loader was stopped during the fetch; its answer was dropped. -/
  | discarded
  deriving DecidableEq, Repr

/-- No tick that adds rows follows this one. -/
def Tick.isFinal : Tick → Bool
  | .stopped | .exhausted | .failed | .discarded => true
  | .appended _ | .busy => false

/-- The text that a diagnostic shows for an outcome. -/
def Tick.inspect : Tick → String
  | .appended count => "Appended(" ++ toString count ++ ")"
  | .busy => "Busy"
  | .stopped => "Stopped"
  | .exhausted => "Exhausted"
  | .failed => "Failed"
  | .discarded => "Discarded"

/-- What a loader and its table tell while they work. -/
inductive Note where
  /-- A source was asked for rows. -/
  | fetch (request : Request)
  /-- A source answered with a fault. -/
  | failed (fault : Fault)
  | table (notice : Table.Notice)

/-- The state of a loader. -/
structure Loader where
  source : Source
  /-- The nanoseconds between two ticks. -/
  interval : Nat
  /-- How many rows are fetched at once. -/
  limit : Option Nat
  stopped : Bool
  /-- A fetch is under way. -/
  fetching : Bool

namespace Loader

/-- The loader of a table with the given options. Without a limit there is nothing to fetch, and it
is stopped from the start. -/
def ofOptions (source : Source) (options : Table.Options) (interval : Option Nat) : Loader :=
  ⟨source, interval.getD options.interval, options.fetchLimit, options.fetchLimit.isNone, false⟩

/-- Whether the loader or its table has been stopped. Of a table that somebody changes nothing is
known, and it counts as not stopped. -/
def isStopped (l : Loader) (t : Table) (hold : Hold) : Bool :=
  l.stopped || (decide (hold ≠ .exclusive) && t.stopped)

/-- The loader stops for good, and its table with it unless somebody holds that. -/
def stop (l : Loader) (t : Table) (hold : Hold) : Loader × Table :=
  ({ l with stopped := true }, if hold = .free then t.stop else t)

/-- How a tick starts. -/
inductive Start where
  /-- It ends at once. -/
  | refused (tick : Tick)
  /-- A fetch is under way. -/
  | fetching (request : Request) (response : Response) (latency : Latency)

/-- What the loader asks its source for. -/
def request (l : Loader) (t : Table) : Request := ⟨t.query, l.limit, t.rows.length⟩

/-- The first half of a tick, up to its fetch. -/
def start (l : Loader) (t : Table) (hold : Hold) : Start × Loader :=
  if l.isStopped t hold then (.refused .stopped, l)
  else if l.fetching ∨ hold = .exclusive then (.refused .busy, l)
  else
    let (response, latency, source) := l.source.fetch (l.request t)
    (.fetching (l.request t) response latency, { l with source, fetching := true })

/-- What is there after the second half of a tick. -/
structure Finish where
  tick : Tick
  loader : Loader
  table : Table
  notes : List Note

/-- A fetch has failed: the loader stops. -/
def fail (l : Loader) (t : Table) (hold : Hold) (fault : Fault) : Finish :=
  let (l, t) := l.stop t hold
  ⟨.failed, l, t, [.failed fault]⟩

/-- Rows have come: they are added. None means that there are no more, and the loader stops. -/
def deliver (l : Loader) (t : Table) (rows : List Value) : Finish :=
  let added := t.add rows
  let notes := added.notices.map .table
  if added.answer = 0 ∧ l.limit.isSome then
    let (l, t) := l.stop added.table .free
    ⟨.exhausted, l, t, notes⟩
  else ⟨.appended added.answer, l, added.table, notes⟩

/-- The second half of a tick, from the answer of its source on. -/
def finish (l : Loader) (t : Table) (hold : Hold) (response : Response) : Finish :=
  let l := { l with fetching := false }
  match response with
  | .ok rows =>
    if l.isStopped t hold then ⟨.discarded, l, t, []⟩
    else if hold ≠ .free then ⟨.busy, l, t, []⟩
    else l.deliver t rows
  | .error fault =>
    if l.isStopped t hold then ⟨.discarded, l, t, [.failed fault]⟩
    else l.fail t hold fault

/-- The text that a diagnostic shows for a loader. -/
def inspect (l : Loader) : String :=
  let flag (b : Bool) := "Cell \x7b value: " ++ (if b then "true" else "false") ++ " \x7d"
  let limit := match l.limit with
    | some n => "Some(" ++ toString n ++ ")"
    | none => "None"
  "StreamLoader \x7b interval: " ++ Text.duration l.interval ++ ", limit: " ++ limit ++
    ", state: LoaderState \x7b stopped: " ++ flag l.stopped ++ ", in_flight: " ++ flag l.fetching ++
    " \x7d, .. \x7d"

end Loader

end LiveTable.Stream
