import LiveTable.Template.Fault

/-!
# Faults of tables

* `Fault`: why a table could not be built or did not do what it was asked, with `message`, `help`
  and `code` for the reader.
-/

namespace LiveTable.Table

/-- Why a table could not be built or did not do what it was asked. -/
inductive Fault where
  /-- Nothing says how a row is written. -/
  | missingView
  /-- A sort declaration that is no field with an optional direction and type. -/
  | sortDeclaration (declaration : String)
  /-- A sort by a column that is not declared as sortable. -/
  | unknownSortColumn (field : String)
  | zeroPageSize
  /-- Options that are no document of the expected form. -/
  | options
  /-- A row template with a fault. -/
  | template (error : Template.SyntaxError)
  deriving DecidableEq

namespace Fault

/-- One line that says what is wrong. -/
def message : Fault → String
  | missingView => "Add a view function in the table options"
  | sortDeclaration declaration => "Invalid sort declaration `" ++ declaration ++ "`"
  | unknownSortColumn field => "Column `" ++ field ++ "` is not sortable"
  | zeroPageSize => "Page size must be at least 1"
  | options => "Invalid table options"
  | template error => error.fault.message

/-- One line that says how to mend it, for the faults that have one. -/
def help? : Fault → Option String
  | missingView => some "Call `view` or `template_view` on the builder before `build`"
  | sortDeclaration _ =>
    some ("Write `field:asc:number`; the direction is `asc` or `desc`, " ++
      "the type `string` or `number`")
  | template error => some error.fault.help
  | _ => none

/-- The stable name of the kind of fault. -/
def code : Fault → String
  | missingView => "streamtable::config::missing_view"
  | sortDeclaration _ => "streamtable::config::sort_declaration"
  | unknownSortColumn _ => "streamtable::sort::unknown_column"
  | zeroPageSize => "streamtable::config::zero_page_size"
  | options => "streamtable::config::options"
  | template error => error.fault.code

end Fault

end LiveTable.Table
