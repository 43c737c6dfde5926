import LiveTable.Value.Basic
import LiveTable.Json.Document

/-!
# Values from JSON

A document is a value: integers that fit in 64 bits with a sign stay integers and all other numbers
are floats; a repeated key keeps its first place and takes its last value (`Value.ofJson`).
-/

namespace LiveTable

/-- The value of a number. -/
def Value.ofJsonNumber : Json.Number → Value
  | .integer i =>
    if -Nat.pow 2 63 ≤ i ∧ i < Nat.pow 2 63 then .int (Int64.ofInt i) else .float (Binary64.ofInt i)
  | .real x => .float x

namespace Value

mutual

/-- The value of a document. -/
def ofJson : Json → Value
  | .null => .null
  | .bool b => .bool b
  | .number n => ofJsonNumber n
  | .string s => .string s
  | .array items => .array (ofJsonItems items)
  | .object members => ofEntries (ofJsonMembers members)

/-- The values of the items. -/
def ofJsonItems : List Json → List Value
  | [] => []
  | j :: rest => ofJson j :: ofJsonItems rest

/-- The members with their values. -/
def ofJsonMembers : List (String × Json) → List (String × Value)
  | [] => []
  | (k, j) :: rest => (k, ofJson j) :: ofJsonMembers rest

end

end Value

end LiveTable
