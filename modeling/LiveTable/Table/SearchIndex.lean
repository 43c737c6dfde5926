import LiveTable.Text.Occurrence
import LiveTable.Text.Upper
import LiveTable.Value.Text

/-!
# Search index

Every row has a search text in upper case, made from the same parts in every row. The parts are
chosen by the table's options or else by the first row ever indexed.

* `TextSource`: the parts of a row that make up its search text;
* `SearchIndex`: one search text for each row, in the order of the rows;
* `SearchIndex.extend`: the index with more rows;
* `SearchIndex.contains`: whether a row's search text contains a query;
* `SearchIndex.search`: the rows whose search texts do.
-/

namespace LiveTable.Table

/-- The parts of a row that make up its search text. -/
inductive TextSource where
  /-- The properties with the given names. -/
  | fields (names : List String)
  /-- The items of an array; other rows have none. -/
  | items
  /-- The row as a whole. -/
  | whole
  deriving DecidableEq

namespace TextSource

/-- The parts chosen by the options, else by a first row. -/
def choose (row : Value) : Option (List String) → TextSource
  | some names => fields names
  | none =>
    match row with
    | .object entries => fields (Dict.keys entries)
    | .array _ => items
    | _ => whole

/-- The texts of the parts of a row, joined by spaces. -/
def plainText (row : Value) : TextSource → String
  | fields names => String.intercalate " " (names.map fun name => (row.get name).display)
  | items => String.intercalate " " ((row.asArray?.getD []).map Value.display)
  | whole => row.display

/-- The search text of a row. -/
def text (source : TextSource) (row : Value) : String := Text.upper (source.plainText row)

end TextSource

/-- One search text for each row, in the order of the rows. -/
structure SearchIndex where
  source : Option TextSource
  entries : List String
  deriving DecidableEq

namespace SearchIndex

/-- The index of no rows. -/
def empty : SearchIndex := ⟨none, []⟩

/-- The index with more rows. The first of them chooses the parts if nothing did before. -/
def extend (index : SearchIndex) (names : Option (List String)) (rows : List Value) :
    SearchIndex :=
  match rows with
  | [] => index
  | first :: _ =>
    let source := index.source.getD (TextSource.choose first names)
    ⟨some source, index.entries ++ rows.map source.text⟩

/-- The search text of the row at an offset. -/
def entry? (index : SearchIndex) (offset : Nat) : Option String := index.entries[offset]?

/-- Whether the search text of the row at an offset contains a query, given in upper case. -/
def contains (index : SearchIndex) (offset : Nat) (query : String) : Bool :=
  match index.entry? offset with
  | some text => Text.occursIn query.toList text.toList
  | none => false

/-- Those of the given rows whose search texts contain a query, given in upper case. -/
def search (index : SearchIndex) (query : String) (offsets : List Nat) : List Nat :=
  let needle := query.toList
  let entries := index.entries.toArray
  offsets.filter fun offset =>
    match entries[offset]? with
    | some text => Text.occursIn needle text.toList
    | none => false

theorem search_eq_filter (index : SearchIndex) (query : String) (offsets : List Nat) :
    index.search query offsets = offsets.filter (index.contains · query) := by
  simp only [search, List.getElem?_toArray]
  rfl

@[simp] theorem entries_extend (index : SearchIndex) (names : Option (List String))
    (rows : List Value) :
    (index.extend names rows).entries.length = index.entries.length + rows.length := by
  cases rows <;> simp [extend]

end SearchIndex

end LiveTable.Table
