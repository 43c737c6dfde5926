import LiveTable.Value.Basic

/-!
# Equality of values

Two values are equal if they are of one kind and have equal parts; the order of an object's
entries does not count. An integer equals a float if the float nearest to it does. A lambda equals
only itself.
-/

namespace LiveTable.Value

mutual

/-- Whether two values are equal. -/
def equal : Value → Value → Bool
  | null, null => true
  | bool a, bool b => a == b
  | int a, int b => a == b
  | float a, float b => a.equal b
  | int a, float b => (Binary64.ofInt a.toInt).equal b
  | float a, int b => (Binary64.ofInt b.toInt).equal a
  | string a, string b => a == b
  | array a, array b => equalItems a b
  | object a, object b => a.length == b.length && equalEntries a b
  | lambda a _, lambda b _ => a == b
  | _, _ => false

/-- Whether two lists have equal items in the same places. -/
def equalItems : List Value → List Value → Bool
  | [], [] => true
  | v :: vs, w :: ws => equal v w && equalItems vs ws
  | _, _ => false

/-- Whether every entry has an equal one under the same key in `other`. -/
def equalEntries : List (String × Value) → Dict String Value → Bool
  | [], _ => true
  | (k, v) :: rest, other =>
    (match other.get? k with
      | some w => equal v w
      | none => false) && equalEntries rest other

end

end LiveTable.Value
