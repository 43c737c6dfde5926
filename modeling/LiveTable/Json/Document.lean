import LiveTable.Json.Token

/-!
# JSON documents

A document is read from its tokens by a machine with a stack of the arrays and objects that are
still open. Objects keep all their members in order, repeated keys too.

* `Json`: a document;
* `Reading`: a position in a document: the open containers and what may come next;
* `Reading.step`: the position after one more token;
* `Json.parse?`: the document written by a text, nested at most `depthLimit` deep.
-/

namespace LiveTable

/-- A JSON document. -/
inductive Json where
  | null
  | bool (b : Bool)
  | number (n : Json.Number)
  | string (s : String)
  | array (items : List Json)
  | object (members : List (String × Json))

namespace Json

/-- Containers nest at most this deep. -/
def depthLimit : Nat := 127

/-- A container that is still open, with its contents so far, the last one first. -/
inductive Container where
  | array (items : List Json)
  | object (members : List (String × Json))
  /-- An object whose last key still waits for its value. -/
  | keyed (members : List (String × Json)) (key : String)

/-- What may come next. -/
inductive Expected where
  /-- A value. -/
  | value
  /-- A value or the end of an empty array. -/
  | firstItem
  /-- A key. -/
  | key
  /-- A key or the end of an empty object. -/
  | firstKey
  /-- A colon after a key. -/
  | colon
  /-- A comma or the end of the innermost container. -/
  | separator

/-- A position in a document: among open containers, the innermost first, or at its end. -/
inductive Reading where
  | inside (expected : Expected) (containers : List Container)
  | complete (document : Json)

/-- The position after a value. -/
def Reading.afterValue (v : Json) : List Container → Option Reading
  | [] => some (.complete v)
  | .array items :: outer => some (.inside .separator (.array (v :: items) :: outer))
  | .keyed members key :: outer =>
    some (.inside .separator (.object ((key, v) :: members) :: outer))
  | .object _ :: _ => none

/-- The position after an opening bracket. -/
def Reading.enter (expected : Expected) (c : Container) (containers : List Container) :
    Option Reading :=
  if containers.length < depthLimit then some (.inside expected (c :: containers)) else none

/-- The position after a token that starts or is a value. -/
def Reading.valueStep (containers : List Container) : Token → Option Reading
  | .null => afterValue .null containers
  | .bool b => afterValue (.bool b) containers
  | .number n => afterValue (.number n) containers
  | .string s => afterValue (.string s) containers
  | .openArray => enter .firstItem (.array []) containers
  | .openObject => enter .firstKey (.object []) containers
  | _ => none

/-- The position after one more token. -/
def Reading.step : Reading → Token → Option Reading
  | .inside .firstItem (.array items :: outer), .closeArray =>
    afterValue (.array items.reverse) outer
  | .inside .separator (.array items :: outer), .closeArray =>
    afterValue (.array items.reverse) outer
  | .inside .firstKey (.object members :: outer), .closeObject =>
    afterValue (.object members.reverse) outer
  | .inside .separator (.object members :: outer), .closeObject =>
    afterValue (.object members.reverse) outer
  | .inside .separator (.array items :: outer), .comma =>
    some (.inside .value (.array items :: outer))
  | .inside .separator (.object members :: outer), .comma =>
    some (.inside .key (.object members :: outer))
  | .inside .firstKey (.object members :: outer), .string key =>
    some (.inside .colon (.keyed members key :: outer))
  | .inside .key (.object members :: outer), .string key =>
    some (.inside .colon (.keyed members key :: outer))
  | .inside .colon containers, .colon => some (.inside .value containers)
  | .inside .value containers, token => valueStep containers token
  | .inside .firstItem containers, token => valueStep containers token
  | _, _ => none

/-- The document written by a text. -/
def parse? (text : String) : Option Json := do
  let tokens ← tokens? text.toList
  match ← tokens.foldlM Reading.step (.inside .value []) with
  | .complete document => some document
  | .inside _ _ => none

end Json

end LiveTable
