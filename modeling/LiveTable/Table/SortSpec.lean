import LiveTable.Table.Fault
import LiveTable.Text.Lower
import LiveTable.Value.Text

/-!
# Sort columns

Rows are sorted by a field, in a direction, as texts or as numbers. A declaration writes these three
with colons between them.

* `Direction`, `Comparison`, `SortSpec`: a sort column;
* `SortKey`: what a row is compared by;
* `SortSpec.compare`: how two rows stand to each other;
* `SortSpec.arrange`: offsets of rows in the order of a column, equal rows as they were;
* `SortSpec.text`, `SortSpec.read`: a column as a declaration, and back.
-/

namespace LiveTable.Table

/-- Which rows come first. -/
inductive Direction where
  | ascending
  | descending
  deriving DecidableEq, Repr

namespace Direction

/-- The other direction. -/
def flip : Direction → Direction
  | ascending => descending
  | descending => ascending

/-- An ascending order read in this direction. -/
def apply : Direction → Ordering → Ordering
  | ascending, o => o
  | descending, o => o.swap

/-- The word for a direction. -/
def word : Direction → String
  | ascending => "asc"
  | descending => "desc"

@[simp] theorem flip_flip (d : Direction) : d.flip.flip = d := by cases d <;> rfl

end Direction

/-- How the values of a column are compared. -/
inductive Comparison where
  /-- As texts, whatever their case. -/
  | text
  /-- As numbers; what is no number comes after all numbers. -/
  | number
  deriving DecidableEq, Repr

/-- The word for a comparison. -/
def Comparison.word : Comparison → String
  | text => "string"
  | number => "number"

/-- A sort column. -/
structure SortSpec where
  field : String
  direction : Direction
  comparison : Comparison
  deriving DecidableEq, Repr

/-- What a row is compared by. -/
inductive SortKey where
  /-- The rank of a number. -/
  | number (rank : Int)
  | nan
  /-- A text in lower case. -/
  | text (s : String)

namespace SortKey

/-- The key of a number. -/
def ofNumber (x : Binary64) : SortKey := if x.isNaN then nan else number x.rank

/-- The key of a text. -/
def ofText (s : String) : SortKey := text (Text.lower s)

/-- The order of two keys. All NaNs are equal and above every number, and texts are ordered by their
characters, above the rest. -/
def compare : SortKey → SortKey → Ordering
  | number a, number b => Ord.compare a b
  | number _, _ => .lt
  | nan, number _ => .gt
  | nan, nan => .eq
  | nan, text _ => .lt
  | text a, text b => Ord.compare a b
  | text _, _ => .gt

end SortKey

namespace SortSpec

/-- What a row is compared by in the column. -/
def key (spec : SortSpec) (row : Value) : SortKey :=
  match spec.comparison with
  | .number => .ofNumber (row.get spec.field).asNumber
  | .text => .ofText (row.get spec.field).display

/-- How two rows with the given keys stand to each other. -/
def compareKeys (spec : SortSpec) (a b : SortKey) : Ordering := spec.direction.apply (a.compare b)

/-- How two rows stand to each other. -/
def compare (spec : SortSpec) (a b : Value) : Ordering := spec.compareKeys (spec.key a) (spec.key b)

/-- The rows at two offsets may stand in this order. -/
def inOrder (spec : SortSpec) (rows : List Value) (a b : Nat) : Bool :=
  spec.compare ((rows[a]?).getD .null) ((rows[b]?).getD .null) != .gt

/-- The offsets of rows in the order of the column, equal rows as they were. Each row is given its
key once. -/
def arrange (spec : SortSpec) (rows : List Value) (offsets : List Nat) : List Nat :=
  let rows := rows.toArray
  let keyed := offsets.map fun offset => (offset, spec.key ((rows[offset]?).getD .null))
  (keyed.mergeSort fun a b => spec.compareKeys a.2 b.2 != .gt).map (·.1)

theorem arrange_eq_mergeSort (spec : SortSpec) (rows : List Value) (offsets : List Nat) :
    spec.arrange rows offsets = offsets.mergeSort (spec.inOrder rows) := by
  simp only [arrange, List.getElem?_toArray]
  rw [List.map_mergeSort (s := spec.inOrder rows)]
  · simp [Function.comp_def]
  · simp only [List.mem_map]
    rintro _ ⟨a, _, rfl⟩ _ ⟨b, _, rfl⟩
    rfl

/-- The column as a declaration. -/
def text (spec : SortSpec) : String :=
  spec.field ++ ":" ++ spec.direction.word ++ ":" ++ spec.comparison.word

/-- The direction of a part of a declaration; an empty one ascends. -/
def readDirection? : String → Option Direction
  | "" => some .ascending
  | "asc" => some .ascending
  | "desc" => some .descending
  | _ => none

/-- The comparison of a part of a declaration; an empty one compares texts. -/
def readComparison? : String → Option Comparison
  | "" => some .text
  | "string" => some .text
  | "number" => some .number
  | _ => none

/-- The column of the parts of a declaration, which has one to three. -/
def ofParts? : List String → Option SortSpec
  | [field] => do
    if field = "" then none
    pure ⟨field, .ascending, .text⟩
  | [field, direction] => do
    if field = "" then none
    pure ⟨field, ← readDirection? direction, .text⟩
  | [field, direction, comparison] => do
    if field = "" then none
    pure ⟨field, ← readDirection? direction, ← readComparison? comparison⟩
  | _ => none

/-- The column of a declaration: its parts between colons, without the blanks around them. -/
def read (declaration : String) : Except Fault SortSpec :=
  match ofParts? ((Text.splitAt ':' declaration).map Text.trim) with
  | some spec => .ok spec
  | none => .error (.sortDeclaration declaration)

/-- The text that a diagnostic shows for a column. -/
def inspect (spec : SortSpec) : String :=
  let direction := match spec.direction with
    | .ascending => "Asc"
    | .descending => "Desc"
  let comparison := match spec.comparison with
    | .text => "String"
    | .number => "Number"
  "SortSpec \x7b field: " ++ Text.quoted spec.field ++ ", direction: " ++ direction ++
    ", value_type: " ++ comparison ++ " \x7d"

end SortSpec

end LiveTable.Table
