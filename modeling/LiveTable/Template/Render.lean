import LiveTable.Template.Engine
import LiveTable.Html.Escape

/-!
# Rendering

A program is rendered in a scene: an engine and a frame. Data that is missing renders as nothing;
only a partial or a template rendered by a lambda can bring in a fault.

* `Scene`: the engine and the frame in which a program is rendered;
* `Stop`: why rendering ended without a text;
* `Render`: a computation in a scene that may stop;
* `perform`: the answer of a lambda;
* `renderNodes`: the text of a list of instructions, given how to enter another program;
* `Program.render`: the text of a program;
* `Engine.render`, `Engine.renderWith`: the text of a template.

Programs enter each other through partials and lambdas, so the depth to which they do is bounded.
-/

namespace LiveTable.Template

/-- The engine and the frame in which a program is rendered. -/
structure Scene where
  engine : Engine
  frame : Frame

/-- Why rendering ended without a text. -/
inductive Stop where
  | fault (error : SyntaxError)
  /-- Programs entered each other too deeply. -/
  | tooDeep

/-- A computation in a scene that may stop. What it did to the scene stays when it stops. -/
abbrev Render (α : Type) := ExceptT Stop (StateM Scene) α

namespace Render

/-- What a name stands for in the frame. -/
def lookup (name : String) : Render Value :=
  ExceptT.mk fun s =>
    let (value, frame) := s.frame.lookup name
    (.ok value, { s with frame })

/-- A computation in the frame with one more view in front. The frame around it comes back. -/
def within (view : Value) (body : Render α) : Render α :=
  ExceptT.mk fun s =>
    let (result, inner) := (body.run.run { s with frame := s.frame.push view }).run
    (result, { inner with frame := s.frame })

/-- An operation on the engine that may meet a fault. -/
def onEngine (operation : Engine → Except SyntaxError α × Engine) : Render α :=
  ExceptT.mk fun s =>
    let (result, engine) := operation s.engine
    (result.mapError Stop.fault, { s with engine })

/-- The result of a computation or the fault that stopped it. -/
def attempt (body : Render α) : Render (Except SyntaxError α) :=
  ExceptT.mk fun s =>
    match (body.run.run s).run with
    | (.ok a, s) => (.ok (.ok a), s)
    | (.error (.fault error), s) => (.ok (.error error), s)
    | (.error .tooDeep, s) => (.error .tooDeep, s)

/-- The second computation goes on where the first one ended, unless that stopped. -/
theorem run_bind (x : Render α) (f : α → Render β) (s : Scene) :
    ((x >>= f).run.run s).run =
      match (x.run.run s).run with
      | (.ok a, s) => ((f a).run.run s).run
      | (.error stop, s) => (.error stop, s) := by
  rw [ExceptT.run_bind, StateT.run_bind, Id.run_bind]
  rcases (x.run.run s).run with ⟨result | result, after⟩ <;> rfl

theorem run_lookup (name : String) (s : Scene) :
    ((lookup name).run.run s).run =
      (.ok (s.frame.lookup name).1, { s with frame := (s.frame.lookup name).2 }) := rfl

theorem run_within (view : Value) (body : Render α) (s : Scene) :
    ((within view body).run.run s).run =
      ((body.run.run { s with frame := s.frame.push view }).run.1,
        { (body.run.run { s with frame := s.frame.push view }).run.2 with frame := s.frame }) := rfl

theorem run_onEngine (operation : Engine → Except SyntaxError α × Engine) (s : Scene) :
    ((onEngine operation).run.run s).run =
      ((operation s.engine).1.mapError Stop.fault, { s with engine := (operation s.engine).2 }) :=
  rfl

theorem run_attempt (body : Render α) (s : Scene) :
    ((attempt body).run.run s).run =
      match (body.run.run s).run with
      | (.ok a, s) => (.ok (.ok a), s)
      | (.error (.fault error), s) => (.ok (.error error), s)
      | (.error .tooDeep, s) => (.error .tooDeep, s) := rfl

end Render

/-- The answer of a lambda called with the given section text, if a section called it. A template
that it renders is compiled with the standard delimiters and entered in the frame of the call. -/
def perform (enter : Program → Render String) (sectionText : Option String) :
    Action Value → Render Value
  | .const value => pure value
  | .sectionText => pure ((sectionText.map Value.string).getD .null)
  | .view => do pure (← get).frame.view
  | .lookup name => Render.lookup name
  | .render template before after => do
    let text := (← perform enter sectionText template).display
    let result ← Render.attempt do
      enter (← Render.onEngine (·.compile templateName .standard text))
    match result with
    | .ok out => pure (.string (before ++ out ++ after))
    | .error error => pure (.string ("!" ++ error.fault.message))
  | .andThen first next => do
    let seen := (← perform enter sectionText first).sight
    perform enter sectionText (next seen)

/-- The value that a tag writes for a name; a lambda is called for it. -/
def interpolate (enter : Program → Render String) (name : String) : Render Value := do
  match ← Render.lookup name with
  | .lambda _ action => perform enter none action
  | value => pure value

/-- The condition of an inverted section: an empty array, or a value that fails the condition of a
section. -/
def isVacant : Value → Bool
  | .array items => items.isEmpty
  | value => !value.truthy

mutual

/-- The text of an instruction, given how to enter another program. A section over an array is
rendered once for each item and over an object once, in a frame of its own; a lambda's answer
stands for its section; any other value decides whether the section is rendered in the same
frame. -/
def renderNode (enter : Program → Render String) : Node → Render String
  | .text s => pure s
  | .escaped name => do pure (Html.escape (← interpolate enter name).display)
  | .raw name => do pure (← interpolate enter name).display
  | .block name body text => do
    match ← Render.lookup name with
    | .array items =>
      pure (String.join (← items.mapM fun item => Render.within item (renderNodes enter body)))
    | .object entries => Render.within (.object entries) (renderNodes enter body)
    | .lambda _ action => do pure (← perform enter (some text.get) action).display
    | value => if value.truthy then renderNodes enter body else pure ""
  | .inverted name body => do
    if isVacant (← Render.lookup name) then renderNodes enter body else pure ""
  | .partialRef name => do
    match ← Render.onEngine (·.loadPartial name) with
    | some program => enter program
    | none => pure ""

/-- The text of a list of instructions. -/
def renderNodes (enter : Program → Render String) : List Node → Render String
  | [] => pure ""
  | node :: nodes => do
    let first ← renderNode enter node
    let rest ← renderNodes enter nodes
    pure (first ++ rest)

end

/-- The text of a program in which programs enter each other at most `depth` deep. -/
def Program.render : Nat → Program → Render String
  | 0, _ => throw .tooDeep
  | depth + 1, program => renderNodes (Program.render depth) program

/-- The depth to which programs enter each other, so that those that would do so for ever are
stopped. -/
def depthLimit : Nat := 2000000

namespace Engine

/-- The text of a program in a frame, and the frame afterwards. -/
def runIn (e : Engine) (program : Program) (frame : Frame) :
    Except Stop String × Scene :=
  ((program.render depthLimit).run.run ⟨e, frame⟩).run

/-- The text of a program over a view. -/
def run (e : Engine) (program : Program) (view : Value) : Except Stop String × Engine :=
  let (result, scene) := e.runIn program (.root view)
  (result, scene.engine)

/-- The text of a program over a view, with partials put at hand first. -/
def runWith (e : Engine) (program : Program) (view : Value) (partials : Partials) :
    Except Stop String × Engine :=
  match e.install partials with
  | (.ok (), e) => e.run program view
  | (.error error, e) => (.error (.fault error), e)

/-- The text of a template over a view. -/
def render (e : Engine) (d : Delimiters) (text : String) (view : Value) :
    Except Stop String × Engine :=
  match e.compile templateName d text with
  | (.ok program, e) => e.run program view
  | (.error error, e) => (.error (.fault error), e)

/-- The text of a template over a view, with partials put at hand after the template is
compiled. -/
def renderWith (e : Engine) (d : Delimiters) (text : String) (view : Value)
    (partials : Partials) : Except Stop String × Engine :=
  match e.compile templateName d text with
  | (.ok program, e) => e.runWith program view partials
  | (.error error, e) => (.error (.fault error), e)

end Engine

end LiveTable.Template
