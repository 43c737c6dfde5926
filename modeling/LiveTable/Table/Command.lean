import LiveTable.Table.Basic

/-!
# Commands

What a table can be asked for, and its answers, as data.

* `Command`: an operation or a question;
* `Reply`: the answer to a command;
* `Table.perform`: the answer, the table afterwards and what it told.
-/

namespace LiveTable.Table

/-- What a table can be asked for. -/
inductive Command where
  | add (rows : List Value)
  | search (text : String)
  | sort (spec : SortSpec)
  | toggle (field : String)
  | goTo (target : PageTarget)
  /-- The page named by a text. -/
  | goToText (text : String)
  | resize (size : Nat)
  | stop
  | container
  | links
  | sizes
  | visible
  | rows
  | options
  | inspect

/-- The answer to a command. -/
inductive Reply where
  | nothing
  | count (n : Nat)
  | flag (b : Bool)
  | page (page : Option Nat)
  | text (s : String)
  | rows (rows : List Value)
  | options (o : Options)
  | fault (f : Fault)
  /-- A text that names no page. -/
  | unreadable (text : String)

/-- An outcome with its answer as a reply. -/
def Outcome.map {α β : Type} (o : Outcome α) (f : α → β) : Outcome β :=
  ⟨f o.answer, o.table, o.notices⟩

/-- The reply of an operation that may meet a fault. -/
def Reply.ofExcept {α : Type} (f : α → Reply) : Except Fault α → Reply
  | .ok a => f a
  | .error e => .fault e

/-- The answer to a command, the table afterwards and what it told. -/
def perform (t : Table) : Command → Outcome Reply
  | .add rows => (t.add rows).map .count
  | .search text => (t.search text).map .flag
  | .sort spec => (t.sort spec).map .flag
  | .toggle field => (t.toggle field).map (.ofExcept fun spec => .text spec.text)
  | .goTo target => (t.goTo target).map .page
  | .goToText text =>
    match PageTarget.read? text with
    | some target => (t.goTo target).map .page
    | none => ⟨.unreadable text, t, []⟩
  | .resize size => (t.resize size).map (.ofExcept .flag)
  | .stop => ⟨.nothing, t.stop, []⟩
  | .container => ⟨.text t.container, t, []⟩
  | .links => ⟨.text t.linksMarkup, t, []⟩
  | .sizes => ⟨.text t.sizesMarkup, t, []⟩
  | .visible => ⟨.rows t.visibleRows, t, []⟩
  | .rows => ⟨.rows t.rows, t, []⟩
  | .options => ⟨.options t.setup.options, t, []⟩
  | .inspect => ⟨.text t.inspect, t, []⟩

end LiveTable.Table
