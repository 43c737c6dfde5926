import LiveTable.Stream.Fetch

/-!
# Sources

* `Latency`: how long a fetch takes;
* `Source`: something that rows can be fetched from;
* `Source.fetch`: what a source answers to a request, and the source afterwards;
* `Source.size`: a bound on the fetches that give rows.
-/

namespace LiveTable.Stream

/-- How long a fetch takes. -/
inductive Latency where
  /-- The answer is there at once. -/
  | immediate
  /-- No time, but the answer is there only when everybody else has had a turn. -/
  | turn
  /-- A number of milliseconds. -/
  | milliseconds (n : Nat)
  deriving DecidableEq, Repr

/-- The latency of a source that takes a number of milliseconds. -/
def Latency.ofMilliseconds : Nat → Latency
  | 0 => .immediate
  | n => .milliseconds n

/-- Something that rows can be fetched from. -/
inductive Source where
  /-- A list of rows. -/
  | memory (rows : List Value)
  /-- A file that does not change: its rows, or why they cannot be had. -/
  | file (content : Response)
  /-- Rows that hold their own number, up to a total, so many at a time. -/
  | counter (size total : Nat) (delay : Nat)
  /-- Answers that are known beforehand, one for each fetch; no rows when they are used up. -/
  | script (answers : List Response) (delay : Nat)

/-- The row with the number `i`. -/
def counterRow (i : Nat) : Value := .object [("i", .ofCount i)]

/-- The rows that a counter has for an offset. -/
def counterRows (size total offset : Nat) : List Value :=
  (List.range' offset (min (offset + size) total - offset)).map counterRow

/-- What a source answers to a request, how long that takes, and the source afterwards. -/
def Source.fetch (request : Request) : Source → Response × Latency × Source
  | .memory rows => (.ok (request.window rows), .immediate, .memory rows)
  | .file content => (content.map request.window, .turn, .file content)
  | .counter size total delay =>
    (.ok (counterRows size total request.offset), .ofMilliseconds delay, .counter size total delay)
  | .script [] delay => (.ok [], .ofMilliseconds delay, .script [] delay)
  | .script (answer :: answers) delay =>
    (answer, .ofMilliseconds delay, .script answers delay)

/-- At most so many fetches give rows if each one starts after the rows of those before. -/
def Source.size : Source → Nat
  | .memory rows => rows.length
  | .file (.ok rows) => rows.length
  | .file (.error _) => 0
  | .counter _ total _ => total
  | .script answers _ => answers.length

/-- Fetching from a list of rows never fails, takes no time and leaves the list as it is. -/
@[simp] theorem Source.fetch_memory (request : Request) (rows : List Value) :
    (Source.memory rows).fetch request = (.ok (request.window rows), .immediate, .memory rows) :=
  rfl

end LiveTable.Stream
