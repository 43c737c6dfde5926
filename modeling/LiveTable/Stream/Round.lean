import LiveTable.Stream.Timeline

/-!
# Rounds

Time stands still while a strand can go on and then jumps to the next moment for which one waits.
Meanwhile the strands take turns in rounds: first those of the step in their order, then those in
the background in the order in which they were woken. In its turn a strand goes on as far as it can,
but a turn lasts for `fairShare` waits at most, and then the strand gives way until the next round.
The strands of a step share one turn. After `batch` strands in the background the step has its turn
again.

Strands that wait for the same moment are woken in the order in which they began to wait. The step
is over when all its strands have ended, and the next step goes on in the same turn.

* `Turn`: whose turn it is;
* `Timeline.goOn?`: whether a strand goes on in this turn;
* `Timeline.nextRound`: the timeline at the start of a round;
* `Timeline.advance`: the timeline and the turn after a small step;
* `Timeline.carryOut`: the timeline after the strands of a step.
-/

namespace LiveTable.Stream

/-- Whose turn it is. -/
inductive Turn where
  /-- The strand at a place among those of the step. -/
  | step (place : Nat)
  /-- A strand in the background; so many more may have a turn in the same round. -/
  | background (strand : Nat) (more : Nat)

namespace Timeline

/-- How many waits may end in a turn. -/
def fairShare : Nat := 128

/-- How many strands in the background have a turn in a round. -/
def batch : Nat := 61

/-- What a strand waits for is there, and it has not ended. -/
def canGoOn (tl : Timeline) (s : Strand) : Bool := !s.job.hasEnded && tl.isOver s.wait

/-- The timeline in which a strand goes on, if it does so in this turn. A wait that ends uses up
some patience. -/
def goOn? (tl : Timeline) (s : Strand) : Option Timeline :=
  if tl.canGoOn s then
    match s.wait, tl.patience with
    | .ready, _ => some tl
    | _, 0 => none
    | _, patience + 1 => some { tl with patience }
  else none

/-- A strand in the background does not go on in this turn. It is woken at the moment for which it
waits, or gives way until the next round. -/
def rest (tl : Timeline) (strand : Nat) (s : Strand) : Timeline :=
  if s.job.hasEnded then tl
  else match s.wait with
    | .moment time =>
      if tl.patience ≠ 0 ∧ tl.now < time then { tl with alarms := tl.alarms ++ [⟨time, strand⟩] }
      else { tl with later := tl.later ++ [strand] }
    | _ => { tl with later := tl.later ++ [strand] }

/-- The next moment for which a strand waits. -/
def nextMoment (tl : Timeline) : Option Nat :=
  (tl.strands.filterMap (fun s =>
    match s.wait with
    | .moment time => if s.job.hasEnded then none else some time
    | _ => none) ++ tl.alarms.map (·.time)).min?

/-- The timeline at a later moment: the strands that wait for it are woken. -/
def wakeAt (tl : Timeline) (now : Nat) : Timeline :=
  let (due, alarms) := tl.alarms.partition (·.time ≤ now)
  { tl with now, alarms, queue := tl.queue ++ due.map (·.strand) }

/-- The timeline at the start of its next round, which is later if no strand can go on before; none
if nothing can go on for ever. -/
def nextRound (tl : Timeline) : Option Timeline :=
  let tl := { tl with
    round := tl.round + 1, patience := fairShare, queue := tl.queue ++ tl.later, later := [] }
  if !tl.queue.isEmpty || tl.strands.any tl.canGoOn then some tl
  else tl.nextMoment.map tl.wakeAt

/-- The turn of the next strand in the background, if `more` of them may have one in this round, or
else the next round. -/
def nextTurn (tl : Timeline) (more : Nat) : Option (Timeline × Turn) :=
  match more, tl.queue with
  | more + 1, strand :: queue =>
    some ({ tl with queue, patience := fairShare }, .background strand more)
  | _, _ => tl.nextRound.map (·, .step 0)

/-- The timeline and the turn after a small step; none when the strands of the step have ended or
nothing can go on for ever. -/
def advance (tl : Timeline) : Turn → Option (Timeline × Turn)
  | .step place =>
    match tl.strands[place]? with
    | none => if tl.strands.all (·.job.hasEnded) then none else tl.nextTurn batch
    | some s =>
      match tl.goOn? s with
      | some tl =>
        let (tl, s) := tl.stepJob s.job
        some ({ tl with strands := tl.strands.set place s }, .step place)
      | none => some (tl, .step (place + 1))
  | .background strand more =>
    match tl.background[strand]? with
    | none => tl.nextTurn more
    | some s =>
      match tl.goOn? s with
      | some tl =>
        let (tl, s) := tl.stepJob s.job
        some ({ tl with background := tl.background.set strand s }, .background strand more)
      | none => (tl.rest strand s).nextTurn more

/-- The timeline after at most `fuel` small steps. -/
def go : Nat → Timeline → Turn → Timeline
  | 0, tl, _ => tl
  | fuel + 1, tl, turn =>
    match tl.advance turn with
    | some (tl, turn) => go fuel tl turn
    | none => tl

/-- The number of small steps after which a step is given up. -/
def enough : Nat := Nat.pow 10 12

/-- The timeline after the given strands. -/
def carryOut (tl : Timeline) (strands : List Strand) : Timeline :=
  go enough { tl with strands } (.step 0)

end Timeline

end LiveTable.Stream
