import LiveTable.Stream.Strand

/-!
# Timelines

A timeline carries out strands on a feed in virtual time. The strands of a step are in front, and
loaders that have been left to themselves run in the background.

* `Alarm`: a moment for which a strand in the background waits;
* `Timeline`: a feed, the time, the strands and what was told;
* `Timeline.stepJob`: a small step of a strand, and what the strand waits for then.

Time is counted in milliseconds; a wait for a part of one takes it whole. No wait is longer than
`longest`.
-/

namespace LiveTable.Stream

/-- A moment for which a strand in the background waits. -/
structure Alarm where
  time : Nat
  strand : Nat

/-- A feed, the time, the strands and what was told. -/
structure Timeline where
  feed : Feed
  /-- The source of a new loader. -/
  source : Source
  /-- The interval of a new loader if it is not that of the options. -/
  interval : Option Nat
  now : Nat
  /-- The number of the round. -/
  round : Nat
  /-- How many waits may still end in this turn. -/
  patience : Nat
  /-- The strands of the step. -/
  strands : List Strand
  /-- The strands in the background. -/
  background : List Strand
  /-- The moments for which strands in the background wait, in the order in which they were set. -/
  alarms : List Alarm
  /-- The strands in the background whose turn comes in this round, in order. -/
  queue : List Nat
  /-- The strands in the background that have given way until the next round, in order. -/
  later : List Nat
  /-- What was told, the last first. -/
  notes : List Note

namespace Timeline

/-- The current loader, which steps are about: the last one that joined. -/
def current (tl : Timeline) : Nat := tl.feed.loaders.length - 1

/-- An event happens. -/
def happen (tl : Timeline) (e : Event) : Answer × Timeline :=
  let p := tl.feed.step e
  (p.answer, { tl with feed := p.feed, notes := p.notes.reverse ++ tl.notes })

/-! ### Waits -/

/-- The longest wait, in milliseconds: thirty years of 365 days. -/
def longest : Nat := 30 * 365 * 24 * 60 * 60 * 1000

/-- A wait for a number of milliseconds from now on. -/
def pause (tl : Timeline) (milliseconds : Nat) : Wait := .moment (tl.now + min milliseconds longest)

/-- The milliseconds of a number of nanoseconds, rounded up. -/
def milliseconds (nanoseconds : Nat) : Nat := (nanoseconds + (Nat.pow 10 6 - 1)) / Nat.pow 10 6

/-- What a strand waits for during a fetch. -/
def waitFor (tl : Timeline) : Latency → Wait
  | .immediate => .ready
  | .turn => .round tl.round
  | .milliseconds n => tl.pause n

/-- A strand in the background is over. -/
def hasEnded (tl : Timeline) (strand : Nat) : Bool :=
  match tl.background[strand]? with
  | some s => s.job.hasEnded
  | none => true

/-- What is waited for is there. -/
def isOver (tl : Timeline) : Wait → Bool
  | .ready => true
  | .round number => decide (number < tl.round)
  | .moment time => decide (time ≤ tl.now)
  | .background strand => tl.hasEnded strand

/-! ### Loaders -/

/-- The strand of a loader gives up. -/
def giveUp (tl : Timeline) (s : LoaderStrand) : Timeline × LoaderStrand :=
  let tl := match s.stage with
    | .fetch flight => (tl.happen (.abandon flight)).2
    | _ => tl
  (tl, { s with stage := .ended none })

/-- A small step of the strand of a loader. -/
def stepLoader (tl : Timeline) (s : LoaderStrand) : Timeline × LoaderStrand × Wait :=
  if s.cancelled then
    let (tl, s) := tl.giveUp s
    (tl, s, .ready)
  else match s.stage with
    | .look =>
      match tl.feed.loaders[s.loader]? with
      | some l =>
        if tl.feed.isStopped s.loader then (tl, { s with stage := .ended none }, .ready)
        else (tl, { s with stage := .start }, tl.pause (milliseconds l.interval))
      | none => (tl, { s with stage := .ended none }, .ready)
    | .start =>
      match tl.happen (.start s.loader) with
      | (.tick tick, tl) => (tl, s.afterTick tick, .ready)
      | (.flight number latency, tl) => (tl, { s with stage := .fetch number }, tl.waitFor latency)
      | (_, tl) => (tl, { s with stage := .ended none }, .ready)
    | .fetch flight =>
      match tl.happen (.land flight) with
      | (.tick tick, tl) => (tl, s.afterTick tick, .ready)
      | (_, tl) => (tl, { s with stage := .ended none }, .ready)
    | .ended _ => (tl, s, .ready)

/-! ### Actions -/

/-- A strand in the background is told to give up: it waits no longer, and its turn comes. -/
def cancelStrand (tl : Timeline) (strand : Nat) : Timeline :=
  { tl with
    background := tl.background.modify strand Strand.cancel
    alarms := tl.alarms.filter (·.strand ≠ strand)
    queue := if tl.hasEnded strand || tl.queue.contains strand then tl.queue
      else tl.queue ++ [strand] }

/-- The loader beside actions is stopped, and its strand in the background gives up. -/
def stopBeside (tl : Timeline) (s : ActionStrand) : Timeline :=
  let tl := (tl.happen (.stop s.loader)).2
  match s.background with
  | none => tl
  | some strand => tl.cancelStrand strand

/-- A small step of a strand of actions. -/
def stepActions (tl : Timeline) (s : ActionStrand) : Timeline × ActionStrand × Wait :=
  match s.todo with
  | [] =>
    match s.background with
    | some strand =>
      if s.awaits then (tl, { s with awaits := false }, .background strand)
      else (tl, { s with ended := true }, .ready)
    | none => (tl, { s with ended := true }, .ready)
  | action :: _ =>
    match action with
    | .sleep n => (tl, s.reply .nothing, tl.pause n)
    | .stop => (tl.stopBeside s, s.reply .nothing, .ready)
    | .stopped => (tl, s.reply (.flag (tl.feed.isStopped s.loader)), .ready)
    | .fetching =>
      if s.background.isSome then (tl, s.reply (.flag (tl.feed.isFetching s.loader)), .ready)
      else (tl, s.reply .nothing, .ready)
    | .hold hold n =>
      if s.holding then
        ((tl.happen (.hold .free)).2, s.reply (.count tl.feed.table.rows.length), .ready)
      else ((tl.happen (.hold hold)).2, { s with holding := true }, tl.pause n)
    | .stopHeld =>
      let tl := (tl.happen (.hold .shared)).2.stopBeside s
      let stopped := tl.feed.isStopped s.loader
      ((tl.happen (.hold .free)).2, s.reply (.flag stopped), .ready)
    | .length => (tl, s.reply (.count tl.feed.table.rows.length), .ready)
    | .command command =>
      match tl.happen (.command command) with
      | (.reply reply, tl) => (tl, s.reply (.table reply), .ready)
      | (_, tl) => (tl, s.reply .nothing, .ready)

/-- A small step of a job, and what it waits for then. -/
def stepJob (tl : Timeline) : Job → Timeline × Strand
  | .loader s =>
    let (tl, s, wait) := tl.stepLoader s
    (tl, ⟨.loader s, wait⟩)
  | .actions s =>
    let (tl, s, wait) := tl.stepActions s
    (tl, ⟨.actions s, wait⟩)

end Timeline

end LiveTable.Stream
