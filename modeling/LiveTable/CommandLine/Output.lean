import LiveTable.CommandLine.Arguments
import LiveTable.CommandLine.Movies
import LiveTable.Stream.Run
import LiveTable.Table.OptionsDocument

/-!
# Output

The command line shows a page of the rows of a file as HTML, and says which of them it shows.

* `Files`: the files that can be read;
* `Failure`: why nothing can be shown, with its exit `code`;
* `movieOptions`, `movieTemplate`: what is used when no options and no template are given;
* `filled`: the table with all rows, which were there from the start or have been loaded in chunks;
* `arranged`: the table sorted, searched and on a page as asked for;
* `output`: what is written for a list of arguments.
-/

namespace LiveTable.CommandLine

/-- The files that can be read: a path gives the bytes of its file. -/
abbrev Files := String → Option ByteArray

/-- The text of a file in UTF-8. -/
def Files.text? (files : Files) (path : String) : Option String :=
  (files path).bind String.fromUTF8?

/-- Why nothing can be shown. -/
inductive Failure where
  | usage (fault : UsageFault)
  /-- The file with the options or the row template is no text that can be read. -/
  | unreadable (path : String)
  | fetch (fault : Stream.Fault)
  | table (fault : Table.Fault)

namespace Failure

/-- The exit code of a failure. -/
def code : Failure → UInt32
  | usage _ => 2
  | _ => 1

/-- One line that says what is wrong. -/
def message : Failure → String
  | usage fault => fault.message
  | unreadable path => "cannot read " ++ path
  | fetch fault => fault.message
  | table fault => fault.message

end Failure

/-- The options for movies. -/
def movieOptions : Table.Options :=
  { Table.Options.standard with
    fields := some ["name", "director", "actor", "year"]
    sorting := ["rating:desc:number", "year:asc:number", "name"] }

/-- A tag of a template. -/
def tag (content : String) : String := "\x7b\x7b" ++ content ++ "\x7d\x7d"

/-- The row template for movies: a table row with a cell for each field. A movie without a rating
has none. -/
def movieTemplate : String :=
  let rating := tag "#record.rating" ++ tag "record.rating" ++ tag "/record.rating" ++
    tag "^record.rating" ++ "n/a" ++ tag "/record.rating"
  let cells := [tag "index", tag "record.name", tag "record.director", tag "record.actor",
    tag "record.year", rating]
  "<tr>\n" ++ String.join (cells.map fun cell => "  <td>" ++ cell ++ "</td>\n") ++ "</tr>\n"

/-- The rows that are fetched at once when the options do not say. -/
def chunk : Nat := 50

/-- The options of the table. -/
def tableOptions (files : Files) (a : Arguments) : Except Failure Table.Options := do
  let options ← match a.config with
    | none => pure movieOptions
    | some path =>
      let some text := files.text? path | throw (.unreadable path)
      (Table.Options.read text).mapError .table
  let options := match a.pageSize with
    | some n => { options with pages := { options.pages with size := some n } }
    | none => options
  if a.stream then pure { options with fetchLimit := options.fetchLimit.or (some chunk) }
  else pure options

/-- The row template. -/
def rowTemplate (files : Files) (a : Arguments) : Except Failure String :=
  match a.template with
  | none => pure movieTemplate
  | some path =>
    match files.text? path with
    | some text => pure text
    | none => throw (.unreadable path)

/-- The rows to show, or why they cannot be had. -/
def rows (files : Files) (a : Arguments) : Stream.Response :=
  match a.data with
  | none => .ok movies
  | some path =>
    match files path with
    | some bytes => Stream.decodeBytes bytes
    | none => .error (.unreadableFile path)

/-- The table with the rows of a response from the start. -/
def full (draft : Table.Draft) (response : Stream.Response) : Except Failure Table := do
  let rows ← response.mapError .fetch
  let built ← (Table.build { draft with rows }).mapError .table
  pure built.table

/-- The table whose rows have been loaded in chunks. A fetch that fails ends the loading. -/
def streamed (draft : Table.Draft) (response : Stream.Response) (interval : Option Nat) :
    Except Failure Table := do
  let built ← (Table.build draft).mapError .table
  let loader := Stream.Loader.ofOptions (.file response) draft.options
    (interval.map (· * Nat.pow 10 6))
  pure (loader.run built.table).table

/-- The table with all rows. -/
def filled (files : Files) (a : Arguments) : Except Failure Table := do
  let options ← tableOptions files a
  let template ← rowTemplate files a
  let view ← (Table.RowView.ofTemplate .empty template).mapError (.table ∘ .template)
  let draft : Table.Draft := { Table.Draft.of options with view := some view }
  if a.stream then streamed draft (rows files a) a.interval
  else full draft (rows files a)

/-- The table with its rows sorted by a column. -/
def sortedBy (t : Table) (field : String) : Except Failure Table :=
  let done := t.toggle field
  match done.answer with
  | .ok _ => .ok done.table
  | .error fault => .error (.table fault)

/-- The table sorted, searched and on a page as asked for. There may be no such page. -/
def arranged (a : Arguments) (t : Table) : Except Failure Table := do
  let t ← a.sort.foldlM sortedBy t
  let t := match a.search with
    | some text => (t.search text).table
    | none => t
  pure (match a.page with
    | some target => (t.goTo target).table
    | none => t)

/-- What is written for a table. -/
def written (t : Table) : String :=
  let s := t.summary
  t.container ++ "\n<p>Showing " ++ toString s.first ++ " to " ++ toString s.last ++ " of " ++
    toString s.total ++ " entries</p>\n"

/-- What is written for what the arguments say. -/
def shown (files : Files) (a : Arguments) : Except Failure String := do
  return written (← arranged a (← filled files a))

/-- What is written for a list of arguments. -/
def output (files : Files) (arguments : List String) : Except Failure String := do
  shown files (← (Arguments.read arguments).mapError .usage)

end LiveTable.CommandLine
