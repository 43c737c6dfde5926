import LiveTable.Table.Markup
import LiveTable.Table.RowView
import LiveTable.Table.SearchIndex

/-!
# Tables

A table holds rows, in the order in which they came. A search narrows them, a sort column arranges
them, and a page of what is left is kept rendered, with the bar of page links.

* `Setup`: what never changes about a table;
* `Table`: the state of a table;
* `Notice`: what a table tells its owner while it works;
* `Outcome`: the answer of an operation, the table afterwards and what it told;
* `Table.visible`: the offsets of the visible rows, in the order in which they are shown;
* `Table.add`, `Table.search`, `Table.sort`, `Table.toggle`, `Table.goTo`, `Table.resize`,
  `Table.stop`: the operations;
* `Draft`, `Table.build`: what a table is built from, and a new table.

Everything that follows from the rows, the query, the sort column and the page is computed by the
operations and kept, so that looking at a table costs nothing.
-/

namespace LiveTable

namespace Table

/-- What the owner is told when rows have come in: how many, how many the table holds, and how many
of these are visible. -/
structure Added where
  added : Nat
  total : Nat
  visible : Nat
  deriving DecidableEq, Repr

/-- What never changes about a table. -/
structure Setup where
  options : Options
  view : RowView
  /-- Looks at rows before they come in and may replace them. -/
  beforeAdd : Option (List Value → Option (List Value))
  /-- Whether to stop streaming once rows have come in. -/
  stopsAfter : Added → Bool

/-- What a table tells its owner while it works. -/
inductive Notice where
  /-- A batch of rows is about to be looked at. -/
  | before (size : Nat)
  /-- Rows have come in. -/
  | added (event : Added)
  /-- Another page is shown, or the same page of other rows. -/
  | page (summary : Summary)
  deriving DecidableEq, Repr

/-- The sort columns of a table. -/
structure Sorting where
  /-- The declared columns by their field, each with the direction for its next toggle. -/
  columns : Dict String SortSpec
  /-- The offsets of all rows, as sorted. -/
  order : List Nat
  /-- The column applied last. -/
  active : Option SortSpec
  deriving DecidableEq

end Table

/-- The state of a table. -/
structure Table where
  setup : Table.Setup
  rows : List Value
  index : Table.SearchIndex
  /-- The sort columns, if any are declared. -/
  sorting : Option Table.Sorting
  /-- The text searched for, without blanks around it; empty when there is no search. -/
  query : String
  /-- The offsets of the rows found by the search, in the order in which they are shown; empty when
  there is no search. -/
  found : List Nat
  /-- The current page, counted from zero. -/
  page : Nat
  /-- The rows on a page. -/
  pageSize : Nat
  /-- The markup of the rows on the current page. -/
  rendered : String
  links : List Table.PageLink
  /-- Streaming has been stopped, for good. -/
  stopped : Bool

namespace Table

/-- The answer of an operation, the table afterwards and what it told its owner, in order. -/
structure Outcome (α : Type) where
  answer : α
  table : Table
  notices : List Notice

/-! ### What a table shows -/

/-- The offsets of all rows, in the order in which they are shown without a search. -/
def arrangement (t : Table) : List Nat :=
  match t.sorting with
  | some s => s.order
  | none => List.range t.rows.length

/-- The offsets of the visible rows, in the order in which they are shown. -/
def visible (t : Table) : List Nat := if t.query = "" then t.arrangement else t.found

/-- The visible rows, in the order in which they are shown. -/
def visibleRows (t : Table) : List Value :=
  let rows := t.rows.toArray
  t.visible.filterMap (rows[·]?)

/-- The number of pages of visible rows. -/
def pages (t : Table) : Nat := pageCount t.visible.length t.pageSize

/-- Which rows the current page shows. -/
def summary (t : Table) : Summary := .of t.page t.pageSize t.visible.length

/-- The sort column applied last. -/
def active (t : Table) : Option SortSpec := t.sorting.bind (·.active)

/-- The markup of the rows on a page. -/
def pageMarkup (t : Table) (page : Nat) : String :=
  let start := page * t.pageSize
  let shown := (t.visible.drop start).take t.pageSize
  let rows := t.rows.toArray
  String.join (shown.mapIdx fun i offset =>
    t.setup.view ((rows[offset]?).getD .null) (start + i + 1))

/-- The bar of page links as markup. -/
def linksMarkup (t : Table) : String := t.setup.options.pages.linksMarkup t.links

/-- The offer of page sizes. -/
def sizesMarkup (t : Table) : String := t.setup.options.pages.sizesMarkup t.pageSize

/-- The whole table: the search box, the offer of page sizes, the rows of the current page and the
page links. -/
def container (t : Table) : String :=
  searchMarkup t.query ++ t.sizesMarkup ++ "\n" ++ t.rendered ++
    "\n<div class=\"st_pagination\">" ++ t.linksMarkup ++ "</div>"

/-- The text that a diagnostic shows for a table. -/
def inspect (t : Table) : String :=
  let sort := match t.active with
    | some spec => "Some(" ++ spec.inspect ++ ")"
    | none => "None"
  "StreamTable \x7b rows: " ++ toString t.rows.length ++ ", query: " ++ Text.quoted t.query ++
    ", visible: " ++ toString t.visible.length ++ ", current_page: " ++ toString t.page ++
    ", per_page: " ++ toString t.pageSize ++ ", active_sort: " ++ sort ++
    ", stop_streaming: " ++ (if t.stopped then "true" else "false") ++ ", .. \x7d"

/-! ### Keeping what follows from the rest -/

/-- The table with the rows found by its query. -/
def findRows (t : Table) : Table :=
  { t with found := t.index.search (Text.upper t.query) t.arrangement }

/-- The table with its rows arranged by a column, those found by a search too. -/
def arrangeBy (t : Table) (spec : SortSpec) : Table :=
  match t.sorting with
  | none => t
  | some s =>
    { t with
      sorting := some { s with order := spec.arrange t.rows s.order }
      found := spec.arrange t.rows t.found }

/-- The table with the markup of a page. -/
def renderPage (t : Table) (page : Nat) : Table := { t with rendered := t.pageMarkup page }

/-- The table with the bar of links for the current page. -/
def renewLinks (t : Table) : Table :=
  { t with links := pageLinks t.pages t.page t.setup.options.pages.span }

/-! ### Operations -/

/-- Streaming stops for good. -/
def stop (t : Table) : Table := { t with stopped := true }

/-- The rows that come in for a batch, and what is told before. -/
def receive (t : Table) (batch : List Value) : List Value × List Notice :=
  match t.setup.beforeAdd with
  | none => (batch, [])
  | some look => ((look batch).getD batch, [.before batch.length])

/-- The table with rows appended and indexed. -/
def append (t : Table) (rows : List Value) : Table :=
  { t with
    rows := t.rows ++ rows
    index := t.index.extend t.setup.options.fields rows
    sorting := t.sorting.map fun s =>
      { s with order := s.order ++ List.range' t.rows.length rows.length } }

/-- The table after rows were appended: searched, arranged and rendered again. -/
def renew (t : Table) : Table :=
  let t := if t.query = "" then t else t.findRows
  let t := match t.active with
    | some spec => t.arrangeBy spec
    | none => t
  (t.renderPage t.page).renewLinks

/-- The rows of a batch come in. Answers how many did; none changes nothing. -/
def add (t : Table) (batch : List Value) : Outcome Nat :=
  let (rows, told) := t.receive batch
  if rows.isEmpty then ⟨0, t, told⟩
  else
    let t := (t.append rows).renew
    let event : Added := ⟨rows.length, t.rows.length, t.visible.length⟩
    let t := if t.setup.stopsAfter event then t.stop else t
    ⟨rows.length, t, told ++ [.added event, .page t.summary]⟩

/-- The rows that contain a text become the visible ones. Answers whether that is another search
than before. -/
def search (t : Table) (text : String) : Outcome Bool :=
  let query := Text.trim text
  if query = t.query then ⟨false, t, []⟩
  else
    let t := { t with query }
    let t := if query = "" then { t with found := [] } else t.findRows
    let t := ({ t with page := 0 }.renderPage 0).renewLinks
    ⟨true, t, [.page t.summary]⟩

/-- The rows are arranged by a column, on the same page. Answers whether the table has sort columns
at all. -/
def sort (t : Table) (spec : SortSpec) : Outcome Bool :=
  match t.sorting with
  | none => ⟨false, t, []⟩
  | some s =>
    let t := { t with sorting := some { s with active := some spec } }.arrangeBy spec
    ⟨true, t.renderPage t.page, []⟩

/-- The rows are arranged by a declared column in its direction, which is the other one the next
time. -/
def toggle (t : Table) (field : String) : Outcome (Except Fault SortSpec) :=
  match t.sorting.bind fun s => (s.columns.get? field).map fun spec => (s, spec) with
  | none => ⟨.error (.unknownSortColumn field), t, []⟩
  | some (s, spec) =>
    let columns := s.columns.insert field { spec with direction := spec.direction.flip }
    let sorted := { t with sorting := some { s with columns } }.sort spec
    ⟨.ok spec, sorted.table, sorted.notices⟩

/-- Another page becomes the current one. Answers which one, unless there is no such page or it is
the current one already. -/
def goTo (t : Table) (target : PageTarget) : Outcome (Option Nat) :=
  match (target.resolve t.page t.pages).filter (· ≠ t.page) with
  | none => ⟨none, t, []⟩
  | some page =>
    let t := { t.renderPage page with page }.renewLinks
    ⟨some page, t, [.page t.summary]⟩

/-- Pages get another size and the first one becomes current. Answers whether the size is another
one than before. -/
def resize (t : Table) (size : Nat) : Outcome (Except Fault Bool) :=
  if size = t.pageSize then ⟨.ok false, t, []⟩
  else if size = 0 then ⟨.error .zeroPageSize, t, []⟩
  else
    let t := ({ t with pageSize := size, page := 0 }.renderPage 0).renewLinks
    ⟨.ok true, t, [.page t.summary]⟩

/-! ### Building -/

/-- A table without rows, with the given sort columns. A field declared twice keeps its first place
and its last declaration. -/
def blank (setup : Setup) (columns : List SortSpec) : Table :=
  let columns := Dict.ofList (columns.map fun spec => (spec.field, spec))
  let sorting := if columns.isEmpty then none else some ⟨columns, [], none⟩
  renewLinks
    { setup, sorting, rows := [], index := .empty, query := "", found := [], page := 0,
      pageSize := setup.options.pages.initialSize, rendered := "", links := [], stopped := false }

/-- The table with its first sort column applied. -/
def applyFirst (t : Table) : Outcome Unit :=
  match t.sorting.bind fun s => s.columns.keys.head? with
  | none => ⟨(), t, []⟩
  | some field =>
    let sorted := t.toggle field
    ⟨(), sorted.table, sorted.notices⟩

/-- What a table is built from. -/
structure Draft where
  options : Options
  /-- How a row is written; a table cannot be built without. -/
  view : Option RowView
  beforeAdd : Option (List Value → Option (List Value))
  stopsAfter : Added → Bool
  /-- The rows at the start. -/
  rows : List Value

/-- The draft of a table with the given options and nothing else. -/
def Draft.of (options : Options) : Draft := ⟨options, none, none, fun _ => false, []⟩

/-- A new table with the rows of a draft, arranged by its first sort column. -/
def build (draft : Draft) : Except Fault (Outcome Unit) := do
  draft.options.validate
  let some view := draft.view | throw .missingView
  let setup : Setup := ⟨draft.options, view, draft.beforeAdd, draft.stopsAfter⟩
  let first := (blank setup (← draft.options.columns)).applyFirst
  if draft.rows.isEmpty then pure first
  else
    let filled := first.table.add draft.rows
    pure ⟨(), filled.table, first.notices ++ filled.notices⟩

end Table

end LiveTable
