import LiveTable.Value.Json

/-!
# Fetching rows

* `Request`: what a source is asked for;
* `Fault`: why rows could not be fetched, with `message` and `code` for the reader;
* `Response`: the rows fetched, or the fault;
* `decodeRows`, `decodeBytes`: the rows of a JSON array;
* `Request.window`: the rows that a request asks for, of all rows.
-/

namespace LiveTable.Stream

/-- What a source is asked for. -/
structure Request where
  /-- The text that the table is searched for. -/
  query : String
  /-- How many rows are wanted at most. -/
  limit : Option Nat
  /-- How many rows the table has already. -/
  offset : Nat
  deriving DecidableEq, Repr

/-- Why rows could not be fetched. -/
inductive Fault where
  /-- The file with the rows could not be read. -/
  | unreadableFile (path : String)
  /-- What was read is not JSON. -/
  | decode
  /-- What was read is JSON but no array. -/
  | notAnArray (found : String)
  /-- The source gave up, with its own words for it. -/
  | source (message : String)
  deriving DecidableEq, Repr

namespace Fault

/-- One line that says what is wrong. -/
def message : Fault → String
  | unreadableFile path => "Failed to read rows from " ++ path
  | decode => "Failed to decode rows"
  | notAnArray found => "Expected a JSON array of rows, found " ++ found
  | source message => message

/-- The stable name of the kind of fault. -/
def code : Fault → String
  | unreadableFile _ => "streamtable::fetch::io"
  | decode => "streamtable::fetch::decode"
  | notAnArray _ => "streamtable::fetch::not_an_array"
  | source _ => "streamtable::fetch::source"

end Fault

/-- The rows fetched, or the fault. -/
abbrev Response := Except Fault (List Value)

/-- What kind of document is there, with its article. -/
def kindOf : Json → String
  | .null => "null"
  | .bool _ => "a boolean"
  | .number _ => "a number"
  | .string _ => "a string"
  | .array _ => "an array"
  | .object _ => "an object"

/-- The rows of the JSON array that a text holds. -/
def decodeRows (text : String) : Response :=
  match Json.parse? text with
  | none => .error .decode
  | some (.array items) => .ok (Value.ofJsonItems items)
  | some other => .error (.notAnArray (kindOf other))

/-- The rows of the JSON array that a file holds. Bytes that are no UTF-8 text are no JSON. -/
def decodeBytes (bytes : ByteArray) : Response :=
  match String.fromUTF8? bytes with
  | some text => decodeRows text
  | none => .error .decode

/-- The rows that a request asks for, of all rows: those from its offset on, at most as many as its
limit. -/
def Request.window (request : Request) (rows : List Value) : List Value :=
  let rest := rows.drop request.offset
  match request.limit with
  | some limit => rest.take limit
  | none => rest

end LiveTable.Stream
