import LiveTable.Template.Render

/-!
# Row views

* `RowView`: the markup of a row, given its place among the visible rows, counted from one;
* `RowView.ofProgram`: the view that renders a compiled template over `record` and `index`.
-/

namespace LiveTable.Table

/-- The markup of a row, given its place among the visible rows, counted from one. -/
abbrev RowView := Value → Nat → String

/-- The data of a row template: the row and its place. -/
def rowData (row : Value) (place : Nat) : Value :=
  .object [("record", row), ("index", .ofCount place)]

/-- The view that renders a program with an engine's partials; a fault while rendering leaves the
row empty. -/
def RowView.ofProgram (e : Template.Engine) (program : Template.Program) : RowView :=
  fun row place =>
    match (e.run program (rowData row place)).1 with
    | .ok html => html
    | .error _ => ""

/-- The view of a row template, compiled with an engine. -/
def RowView.ofTemplate (e : Template.Engine) (text : String) :
    Except Template.SyntaxError RowView :=
  match e.compile Template.templateName .standard text with
  | (.ok program, e) => .ok (.ofProgram e program)
  | (.error error, _) => .error error

end LiveTable.Table
