import LiveTable.Binary64.Round
import LiveTable.Binary64.Read
import LiveTable.Dict
import LiveTable.Text.Blank
import LiveTable.Text.Count

/-!
# Values

The data that templates render and that tables hold as rows.

* `Sight`: what can be seen of a value;
* `Action`: what a lambda does when a tag calls it;
* `Value`: a value;
* `Value.sight`: what a lambda sees of a value;
* `Value.truthy`: the condition that a section tests;
* `Value.get`: a property of a value;
* `Value.asNumber`: a value as a number;
* `Value.ofCount`, `Value.ofEntries`: values made from other data.
-/

namespace LiveTable

/-- What can be seen of a value: everything but what the lambdas in it do. -/
inductive Sight where
  | null
  | bool (b : Bool)
  | int (i : Int64)
  | float (x : Binary64)
  | string (s : String)
  | array (items : List Sight)
  | object (entries : List (String × Sight))
  | lambda (identity : Nat)

/-- What a lambda does when a tag calls it: it answers a value, with the current context and the
section's text at hand. -/
inductive Action (α : Type) where
  /-- A fixed value. -/
  | const (value : α)
  /-- The text of the section that called; null when no section did. -/
  | sectionText
  /-- The view of the current frame. -/
  | view
  /-- What a name stands for in the current context. -/
  | lookup (name : String)
  /-- The text of another action's value, rendered as a template in the current context, between
  two fixed texts; an exclamation mark and the message if that fails. -/
  | render (template : Action α) (before after : String)
  /-- What follows from what can be seen of another action's value. -/
  | andThen (first : Action α) (next : Sight → Action α)

/-- A value. Lambdas have an identity, since two of them are never compared by what they do. -/
inductive Value where
  | null
  | bool (b : Bool)
  | int (i : Int64)
  | float (x : Binary64)
  | string (s : String)
  | array (items : List Value)
  | object (entries : List (String × Value))
  | lambda (identity : Nat) (action : Action Value)

instance : Inhabited Value := ⟨.null⟩

namespace Value

mutual

/-- What can be seen of a value. -/
def sight : Value → Sight
  | null => .null
  | bool b => .bool b
  | int i => .int i
  | float x => .float x
  | string s => .string s
  | array items => .array (sightItems items)
  | object entries => .object (sightEntries entries)
  | lambda identity _ => .lambda identity

/-- What can be seen of the items. -/
def sightItems : List Value → List Sight
  | [] => []
  | v :: rest => v.sight :: sightItems rest

/-- What can be seen of the entries. -/
def sightEntries : List (String × Value) → List (String × Sight)
  | [] => []
  | (k, v) :: rest => (k, v.sight) :: sightEntries rest

end

/-- The value is null. -/
def isNull : Value → Bool
  | null => true
  | _ => false

/-- The condition that a section tests: null, false, the zeros, NaN and the empty text fail it. -/
def truthy : Value → Bool
  | null => false
  | bool b => b
  | int i => i != 0
  | float x => !x.isZero && !x.isNaN
  | string s => s != ""
  | array _ | object _ | lambda _ _ => true

/-- The name of the kind of a value. -/
def typeName : Value → String
  | null => "null"
  | bool _ => "bool"
  | int _ => "int"
  | float _ => "float"
  | string _ => "string"
  | array _ => "array"
  | object _ => "object"
  | lambda _ _ => "lambda"

/-- The text, if the value is one. -/
def asString? : Value → Option String
  | string s => some s
  | _ => none

/-- The items, if the value is an array. -/
def asArray? : Value → Option (List Value)
  | array items => some items
  | _ => none

/-- The entries, if the value is an object. -/
def asObject? : Value → Option (Dict String Value)
  | object entries => some entries
  | _ => none

/-- The number that a text stands for: zero if it is blank, NaN if it is no number. -/
def numberOfText (s : String) : Binary64 :=
  let t := Text.trim s
  if t = "" then .zero else (Binary64.read? t).getD .nan

/-- The value as a number: numbers are themselves, truth values are 0 and 1, null is 0, texts are
read, and everything else is NaN. -/
def asNumber : Value → Binary64
  | null => .zero
  | bool b => .ofNat b.toNat
  | int i => .ofInt i.toInt
  | float x => x
  | string s => numberOfText s
  | array _ | object _ | lambda _ _ => .nan

/-- A count as an integer value, modulo `2 ^ 64`. -/
def ofCount (n : Nat) : Value := int (Int64.ofNat n)

/-- A property of a value: an entry of an object, an item of an array by its offset, or the
`length` of an array or a text. Every other property is null. -/
def get : Value → String → Value
  | object entries, key => (Dict.get? entries key).getD null
  | array items, key =>
    if key = "length" then ofCount items.length
    else ((Text.readCount key).bind (items[·]?)).getD null
  | string s, key => if key = "length" then ofCount s.length else null
  | _, _ => null

/-- The object made by inserting the entries one by one. -/
def ofEntries (entries : List (String × Value)) : Value := object (Dict.ofList entries)

end Value

end LiveTable
