import LiveTable.Stream.Round

/-!
# Steps

What is done with a table and its loaders, one thing after the other.

* `Step`, `StepReply`: what a timeline carries out, and its answer;
* `Timeline.of`: the timeline of a table with one loader;
* `Timeline.step`: the reply to a step, and the timeline after it.
-/

namespace LiveTable.Stream

/-- What a timeline carries out. -/
inductive Step where
  | command (command : Table.Command)
  | tick
  | run
  | stop
  | inspect
  /-- Two ticks at once. -/
  | twoTicks
  /-- A tick while the table is held. -/
  | tickHeld (hold : Hold)
  | tickBeside (actions : List Action)
  | runBeside (actions : List Action)
  /-- The loader runs in the background beside the actions, and its end is awaited if asked for.
  Then a new loader takes its place. -/
  | spawn (actions : List Action) (finish : Bool)

/-- The answer to a step. -/
inductive StepReply where
  | nothing
  | table (reply : Table.Reply)
  | text (s : String)
  | tick (tick : Tick)
  | ticks (ticks : List Tick)
  | actions (replies : List ActionReply)
  | tickActions (tick : Tick) (replies : List ActionReply)

namespace Timeline

/-- A table with one loader, at the start of time, and what was told before. -/
def of (t : Table) (source : Source) (interval : Option Nat) (notes : List Note) : Timeline where
  feed := (Feed.of t).join source interval
  source := source
  interval := interval
  now := 0
  round := 0
  patience := fairShare
  strands := []
  background := []
  alarms := []
  queue := []
  later := []
  notes := notes.reverse

/-- The outcome of the strand with one tick at a place. -/
def outcome (tl : Timeline) (place : Nat) : Tick :=
  ((tl.strands[place]?).bind Strand.outcome?).getD .busy

/-- The replies of the strand with actions at a place. -/
def replies (tl : Timeline) (place : Nat) : List ActionReply :=
  ((tl.strands[place]?).map Strand.replies).getD []

/-- The current loader is left to run in the background, and its turn comes in this round. -/
def release (tl : Timeline) : Timeline :=
  { tl with
    background := tl.background ++ [.run tl.current]
    queue := tl.queue ++ [tl.background.length] }

/-- The reply to a step, and the timeline after it. -/
def step (tl : Timeline) : Step → StepReply × Timeline
  | .command command =>
    match tl.happen (.command command) with
    | (.reply reply, tl) => (.table reply, tl)
    | (_, tl) => (.nothing, tl)
  | .tick =>
    let tl := tl.carryOut [.tick tl.current]
    (.tick (tl.outcome 0), tl)
  | .run => (.nothing, tl.carryOut [.run tl.current])
  | .stop => (.nothing, (tl.happen (.stop tl.current)).2)
  | .inspect => (.text (((tl.feed.loaders[tl.current]?).map Loader.inspect).getD ""), tl)
  | .twoTicks =>
    let tl := tl.carryOut [.tick tl.current, .tick tl.current]
    (.ticks [tl.outcome 0, tl.outcome 1], tl)
  | .tickHeld hold =>
    let tl := (tl.happen (.hold hold)).2.carryOut [.tick tl.current]
    (.tick (tl.outcome 0), (tl.happen (.hold .free)).2)
  | .tickBeside actions =>
    let tl := tl.carryOut [.tick tl.current, .beside tl.current actions]
    (.tickActions (tl.outcome 0) (tl.replies 1), tl)
  | .runBeside actions =>
    let tl := tl.carryOut [.run tl.current, .beside tl.current actions]
    (.actions (tl.replies 1), tl)
  | .spawn actions finish =>
    let strand : ActionStrand :=
      ⟨tl.current, some tl.background.length, actions, false, [], finish, false⟩
    let tl := tl.release.carryOut [⟨.actions strand, .ready⟩]
    (.actions (tl.replies 0), (tl.happen (.join tl.source tl.interval)).2)

/-- What was told since it was last asked for, and the timeline that has told it. -/
def takeNotes (tl : Timeline) : List Note × Timeline :=
  (tl.notes.reverse, { tl with notes := [] })

end Timeline

end LiveTable.Stream
