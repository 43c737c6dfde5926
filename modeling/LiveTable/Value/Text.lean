import LiveTable.Value.Basic
import LiveTable.Binary64.Text
import LiveTable.Text.Quoted

/-!
# Values as text

* `Value.display v`: the text that a tag writes for `v`;
* `Value.inspect v`: the text that a diagnostic shows for `v`, in which texts are quoted.
-/

namespace LiveTable.Value

mutual

/-- The text that a tag writes: null is empty, an array joins its items by commas, and an object
has a fixed text. -/
def display : Value → String
  | null => ""
  | bool b => if b then "true" else "false"
  | int i => toString i.toInt
  | float x => x.write .plain
  | string s => s
  | array items => displayItems items
  | object _ => "[object Object]"
  | lambda _ _ => "[lambda]"

/-- The texts of the items, joined by commas. -/
def displayItems : List Value → String
  | [] => ""
  | [v] => v.display
  | v :: w :: rest => v.display ++ "," ++ displayItems (w :: rest)

end

mutual

/-- The text that a diagnostic shows. -/
def inspect : Value → String
  | null => "null"
  | bool b => if b then "true" else "false"
  | int i => toString i.toInt
  | float x => x.write .exact
  | string s => Text.quoted s
  | array items => "[" ++ inspectItems items ++ "]"
  | object entries => "\x7b" ++ inspectEntries entries ++ "\x7d"
  | lambda _ _ => "<lambda>"

/-- The items, joined by commas and spaces. -/
def inspectItems : List Value → String
  | [] => ""
  | [v] => v.inspect
  | v :: w :: rest => v.inspect ++ ", " ++ inspectItems (w :: rest)

/-- The entries as key and value, joined by commas and spaces. -/
def inspectEntries : List (String × Value) → String
  | [] => ""
  | [(k, v)] => Text.quoted k ++ ": " ++ v.inspect
  | (k, v) :: e :: rest =>
    Text.quoted k ++ ": " ++ v.inspect ++ ", " ++ inspectEntries (e :: rest)

end

end LiveTable.Value
