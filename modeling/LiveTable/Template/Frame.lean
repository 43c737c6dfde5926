import LiveTable.Value.Basic
import LiveTable.Value.Text

/-!
# Frames

Names are looked up in a chain of views: a section over an item or an object puts it in front of
the views around it. A frame is such a chain with a memo of the names looked up in it before.

* `parts name`: the properties that a name goes through;
* `walk view path`, `walkChain path views`: what they lead to in one view and in a chain of views;
* `Frame`: a chain of views with its memo;
* `Frame.root`, `Frame.push`, `Frame.pushes`: the chain of one view, and a chain with views in
  front;
* `Frame.lookup`: what a name stands for, and the frame that remembers it.
-/

namespace LiveTable.Template

/-- The property at the end of a path. A value on the way that fails the condition of a section
ends the path and is the result. -/
def walkPath (view : Value) : List String → Value
  | [] => view
  | part :: path => if view.truthy then walkPath (view.get part) path else view

/-- The name has the parts of a path: it has a dot, but does not start with one. -/
def isPath (name : String) : Bool := name.toList.contains '.' && name.toList.head? != some '.'

/-- The properties that a name goes through: its parts if it has the parts of a path, else one. -/
def parts (name : String) : List String := if isPath name then Text.splitAt '.' name else [name]

/-- What the parts of a name stand for in one view: a property, or the end of a path of
properties. -/
def walk (view : Value) : List String → Value
  | [name] => view.get name
  | path => walkPath view path

/-- What the parts of a name stand for in a chain of views, the innermost first: the first result
that is not null. -/
def walkChain (path : List String) : List Value → Value
  | [] => .null
  | view :: outer =>
    let value := walk view path
    if value.isNull then walkChain path outer else value

/-- A chain of views with the names looked up in it so far. -/
structure Frame where
  view : Value
  outer : List Value
  memo : Dict String Value

namespace Frame

/-- The chain of one view. -/
def root (view : Value) : Frame := ⟨view, [], []⟩

/-- The chain with one more view in front. -/
def push (f : Frame) (view : Value) : Frame := ⟨view, f.view :: f.outer, []⟩

/-- The chain, and the chains that grow from it view by view. -/
def pushes (f : Frame) : List Value → List Frame
  | [] => [f]
  | view :: more => f :: pushes (f.push view) more

/-- The views of the chain, the innermost first. -/
def views (f : Frame) : List Value := f.view :: f.outer

/-- What a name stands for, whatever the memo says: a dot alone is the innermost view. -/
def resolve (f : Frame) (name : String) : Value :=
  if name = "." then f.view else walkChain (parts name) f.views

/-- What a name stands for, and the frame that remembers it. -/
def lookup (f : Frame) (name : String) : Value × Frame :=
  match f.memo.get? name with
  | some value => (value, f)
  | none =>
    let value := f.resolve name
    (value, { f with memo := f.memo.insert name value })

/-- The text that a diagnostic shows for a frame. -/
def inspect (f : Frame) : String :=
  "Frame \x7b view: " ++ f.view.inspect ++ ", depth: " ++ toString f.outer.length ++ " \x7d"

end Frame

end LiveTable.Template
