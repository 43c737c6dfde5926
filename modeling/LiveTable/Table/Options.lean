import LiveTable.Binary64.Round
import LiveTable.Table.SortSpec

/-!
# Options

* `PageOptions`: page size and the look of the page links;
* `Options`: the options of a table;
* `Options.columns`: the declared sort columns;
* `Options.validate`: whether a table can be built with the options;
* `Options.interval`: the nanoseconds between two fetches.
-/

namespace LiveTable.Table

/-- Page size and the look of the page links. -/
structure PageOptions where
  /-- The number of page numbers shown at once. -/
  span : Nat
  /-- The label of the link to the previous page, as HTML. -/
  previousLabel : String
  /-- The label of the link to the next page, as HTML. -/
  nextLabel : String
  /-- Whether page sizes are offered. -/
  offersSizes : Bool
  /-- The page sizes on offer. -/
  sizes : List Nat
  /-- The page size at the start. -/
  size : Option Nat
  /-- A class to add to the list of page links. -/
  linksClass : Option String
  /-- A class to add to the offer of page sizes. -/
  sizesClass : Option String
  deriving DecidableEq

/-- The options of a table. -/
structure Options where
  /-- The fields that make up the search text of a row. -/
  fields : Option (List String)
  pages : PageOptions
  /-- The seconds between two fetches. -/
  streamAfter : Binary64
  /-- The number of rows to fetch at once; without it nothing is fetched. -/
  fetchLimit : Option Nat
  /-- The declarations of the sort columns. The first one is applied when the table is built. -/
  sorting : List String
  deriving DecidableEq

/-- The page options of a table that says nothing about them. -/
def PageOptions.standard : PageOptions :=
  ⟨5, "&laquo;", "&raquo;", true, [10, 25, 50], none, none, none⟩

/-- The page size at the start: the given one, else the first on offer, else ten. -/
def PageOptions.initialSize (o : PageOptions) : Nat := (o.size.or o.sizes.head?).getD 10

namespace Options

/-- The options of a table that says nothing. -/
def standard : Options := ⟨none, .standard, .ofNat 2, none, []⟩

/-- The declared sort columns. -/
def columns (o : Options) : Except Fault (List SortSpec) := o.sorting.mapM SortSpec.read

/-- A table can be built with the options: no page size is zero and the sort columns are well
declared. -/
def validate (o : Options) : Except Fault Unit := do
  if o.pages.initialSize = 0 ∨ 0 ∈ o.pages.sizes then throw .zeroPageSize
  let _ ← o.columns

/-- The nanoseconds of a number of seconds, if it is not negative and its whole seconds fit in
64 bits. -/
def nanoseconds? (seconds : Binary64) : Option Nat :=
  if seconds.isNaN || seconds.isInfinite || (seconds.negative && !seconds.isZero) then none
  else
    let n := Binary64.halfEven (seconds.scaled * Nat.pow 10 9) (1 <<< 1074)
    if n < Nat.pow 2 64 * Nat.pow 10 9 then some n else none

/-- The nanoseconds between two fetches; two seconds if the option makes no sense. -/
def interval (o : Options) : Nat := (nanoseconds? o.streamAfter).getD (2 * Nat.pow 10 9)

end Options

end LiveTable.Table
