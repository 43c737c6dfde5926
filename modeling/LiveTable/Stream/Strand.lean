import LiveTable.Stream.Feed

/-!
# Strands

A strand is something that goes on beside other things on a feed: the ticks of a loader, or actions
of somebody else. It says how far it has come and what it waits for.

* `Action`, `ActionReply`: what is done beside a tick or run, and its answer;
* `Wait`: what a strand waits for;
* `Stage`: how far the ticks of a loader have come;
* `Job`: the ticks of a loader or a list of actions;
* `Strand`: a job and what it waits for.
-/

namespace LiveTable.Stream

/-- What is done beside a tick or run. -/
inductive Action where
  | sleep (milliseconds : Nat)
  | stop
  | stopped
  | fetching
  /-- The table is held for a while. -/
  | hold (hold : Hold) (milliseconds : Nat)
  /-- The loader is stopped while the table is held. -/
  | stopHeld
  | length
  | command (command : Table.Command)

/-- The answer to an action. -/
inductive ActionReply where
  | nothing
  | flag (b : Bool)
  | count (n : Nat)
  | table (reply : Table.Reply)

/-- What a strand waits for. -/
inductive Wait where
  /-- Nothing. -/
  | ready
  /-- A round after the one with a number. -/
  | round (number : Nat)
  /-- A moment. -/
  | moment (milliseconds : Nat)
  /-- The end of a strand in the background. -/
  | background (strand : Nat)

/-- How far the ticks of a loader have come. -/
inductive Stage where
  /-- A run looks whether its loader has been stopped. -/
  | look
  | start
  | fetch (flight : Nat)
  /-- All is done; the outcome of the last tick, if there was one. -/
  | ended (tick : Option Tick)

/-- The ticks of a loader: one, or as many as a run takes. -/
structure LoaderStrand where
  loader : Nat
  repeats : Bool
  stage : Stage
  /-- The strand has been told to give up. -/
  cancelled : Bool

/-- Actions beside a loader. -/
structure ActionStrand where
  loader : Nat
  /-- The strand of the loader if that runs in the background. -/
  background : Option Nat
  todo : List Action
  /-- The first action holds the table. -/
  holding : Bool
  replies : List ActionReply
  /-- The end of the loader's strand is awaited after the actions. -/
  awaits : Bool
  ended : Bool

/-- Something that goes on beside other things. -/
inductive Job where
  | loader (strand : LoaderStrand)
  | actions (strand : ActionStrand)

/-- The strand of a loader after a tick of it. -/
def LoaderStrand.afterTick (s : LoaderStrand) (tick : Tick) : LoaderStrand :=
  { s with stage := if s.repeats && !tick.isFinal then .look else .ended (some tick) }

/-- The strand of actions after the answer to its first one. -/
def ActionStrand.reply (s : ActionStrand) (reply : ActionReply) : ActionStrand :=
  { s with todo := s.todo.tail, holding := false, replies := s.replies ++ [reply] }

/-- All of a job is done. -/
def Job.hasEnded : Job → Bool
  | .loader s =>
    match s.stage with
    | .ended _ => true
    | _ => false
  | .actions s => s.ended

/-- A job and what it waits for. -/
structure Strand where
  job : Job
  wait : Wait

/-- A strand with one tick. -/
def Strand.tick (loader : Nat) : Strand := ⟨.loader ⟨loader, false, .start, false⟩, .ready⟩

/-- A strand with a run. -/
def Strand.run (loader : Nat) : Strand := ⟨.loader ⟨loader, true, .look, false⟩, .ready⟩

/-- A strand with actions beside a loader that does not run in the background. -/
def Strand.beside (loader : Nat) (actions : List Action) : Strand :=
  ⟨.actions ⟨loader, none, actions, false, [], false, false⟩, .ready⟩

/-- A strand in the background is told to give up, and can do so at once. -/
def Strand.cancel (s : Strand) : Strand :=
  match s.job with
  | .loader l => ⟨.loader { l with cancelled := true }, .ready⟩
  | .actions _ => s

/-- The outcome of a strand with one tick, when it is over. -/
def Strand.outcome? (s : Strand) : Option Tick :=
  match s.job with
  | .loader l =>
    match l.stage with
    | .ended tick => tick
    | _ => none
  | .actions _ => none

/-- The answers of a strand with actions. -/
def Strand.replies (s : Strand) : List ActionReply :=
  match s.job with
  | .loader _ => []
  | .actions a => a.replies

end LiveTable.Stream
