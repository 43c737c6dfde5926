import LiveTable.Template.Render

/-!
# Rendering step by step

Rendering is made of few kinds of steps: a view or a name is looked at, a view is put in front for a
while, a text is compiled, a partial is fetched, and a fault may be caught. What holds of each step
and carries over from steps to what follows them holds of rendering.

* `Stepwise x`: the computation `x` is made of such steps;
* `Stepwise.mapM`, `stepwise_perform`, `stepwise_interpolate`, `stepwise_renderNodes`: what is;
* `stepwise_render`: rendering a program is;
* `SideBySide R x`: in related engines the computation goes the same way and leaves related engines;
* `Stepwise.sideBySide`: what is made of such steps does, if compiling and fetching do.
-/

namespace LiveTable.Template

/-- A computation is made of the steps of rendering. -/
inductive Stepwise : {α : Type} → Render α → Prop where
  | pure {α : Type} (a : α) : Stepwise (pure a : Render α)
  | tooDeep {α : Type} : Stepwise (throw .tooDeep : Render α)
  | bind {α β : Type} {x : Render α} {f : α → Render β} :
      Stepwise x → (∀ a, Stepwise (f a)) → Stepwise (x >>= f)
  | view : Stepwise (do pure (← get).frame.view)
  | lookup (name : String) : Stepwise (Render.lookup name)
  | within {α : Type} (view : Value) {body : Render α} :
      Stepwise body → Stepwise (Render.within view body)
  | attempt {α : Type} {body : Render α} : Stepwise body → Stepwise (Render.attempt body)
  /-- A lambda has a text compiled with the standard delimiters. -/
  | compile (text : String) : Stepwise (Render.onEngine (·.compile templateName .standard text))
  | loadPartial (name : String) : Stepwise (Render.onEngine (·.loadPartial name))

theorem Stepwise.mapM {α β : Type} {f : α → Render β} (hf : ∀ a, Stepwise (f a))
    (items : List α) : Stepwise (items.mapM f) := by
  induction items with
  | nil => exact .pure []
  | cons a items ih =>
    rw [List.mapM_cons]
    exact .bind (hf a) fun b => .bind ih fun bs => .pure (b :: bs)

section

variable {enter : Program → Render String} (henter : ∀ program, Stepwise (enter program))

include henter

theorem stepwise_perform (sectionText : Option String) (action : Action Value) :
    Stepwise (perform enter sectionText action) := by
  induction action with
  | const value => exact .pure value
  | sectionText => exact .pure _
  | view => exact .view
  | lookup name => exact .lookup name
  | render template before after ih =>
    refine .bind ih fun value => .bind (.attempt ?_) fun result => ?_
    · exact .bind (.compile value.display) henter
    · cases result with
      | ok out => exact .pure _
      | error error => exact .pure _
  | andThen first next ihfirst ihnext => exact .bind ihfirst fun value => ihnext value.sight

theorem stepwise_interpolate (name : String) : Stepwise (interpolate enter name) := by
  refine .bind (.lookup name) fun value => ?_
  cases value with
  | lambda identity action => exact stepwise_perform henter none action
  | _ => exact .pure _

end

mutual

theorem stepwise_renderNode {enter : Program → Render String}
    (henter : ∀ program, Stepwise (enter program)) :
    ∀ node, Stepwise (renderNode enter node)
  | .text s => .pure s
  | .escaped name => .bind (stepwise_interpolate henter name) fun _ => .pure _
  | .raw name => .bind (stepwise_interpolate henter name) fun _ => .pure _
  | .block name body text => by
    have hbody := stepwise_renderNodes henter body
    unfold renderNode
    refine .bind (.lookup name) fun value => ?_
    cases value with
    | array items =>
      refine .bind (.mapM (fun item => ?_) items) fun _ => .pure _
      exact .within item hbody
    | object entries => exact .within _ hbody
    | lambda identity action =>
      exact .bind (stepwise_perform henter _ action) fun _ => .pure _
    | _ =>
      dsimp only
      split
      · exact hbody
      · exact .pure ""
  | .inverted name body => by
    have hbody := stepwise_renderNodes henter body
    unfold renderNode
    refine .bind (.lookup name) fun value => ?_
    split
    · exact hbody
    · exact .pure ""
  | .partialRef name => by
    unfold renderNode
    refine .bind (.loadPartial name) fun program => ?_
    cases program with
    | some program => exact henter program
    | none => exact .pure ""

theorem stepwise_renderNodes {enter : Program → Render String}
    (henter : ∀ program, Stepwise (enter program)) :
    ∀ nodes, Stepwise (renderNodes enter nodes)
  | [] => .pure ""
  | node :: nodes =>
    .bind (stepwise_renderNode henter node) fun _ =>
      .bind (stepwise_renderNodes henter nodes) fun _ => .pure _

end

/-- **Rendering a program is made of these steps**, however deep programs enter each other. -/
theorem stepwise_render (depth : Nat) (program : Program) : Stepwise (program.render depth) := by
  induction depth generalizing program with
  | zero => exact .tooDeep
  | succ depth ih => exact stepwise_renderNodes ih program

/-! ### Two engines side by side -/

/-- In engines that are related and in the same frame, the computation has the same result and
leaves engines that are related and the same frame. -/
def SideBySide (R : Engine → Engine → Prop) (x : Render α) : Prop :=
  ∀ ⦃e e' : Engine⦄, R e e' → ∀ frame, ∃ result after f f',
    (x.run.run ⟨e, frame⟩).run = (result, ⟨f, after⟩) ∧
      (x.run.run ⟨e', frame⟩).run = (result, ⟨f', after⟩) ∧ R f f'

namespace SideBySide

variable {R : Engine → Engine → Prop}

theorem pure (a : α) : SideBySide R (pure a : Render α) := fun _ _ h _ => ⟨_, _, _, _, rfl, rfl, h⟩

theorem throw (stop : Stop) : SideBySide R (throw stop : Render α) :=
  fun _ _ h _ => ⟨_, _, _, _, rfl, rfl, h⟩

theorem bind {x : Render α} {f : α → Render β} (hx : SideBySide R x)
    (hf : ∀ a, SideBySide R (f a)) : SideBySide R (x >>= f) := by
  intro e e' h frame
  obtain ⟨result, after, e₁, e₁', hrun, hrun', h'⟩ := hx h frame
  rw [Render.run_bind, Render.run_bind, hrun, hrun']
  cases result with
  | ok a => exact hf a h' after
  | error stop => exact ⟨_, _, _, _, rfl, rfl, h'⟩

theorem view : SideBySide R (do Pure.pure (← get).frame.view) :=
  fun _ _ h _ => ⟨_, _, _, _, rfl, rfl, h⟩

theorem lookup (name : String) : SideBySide R (Render.lookup name) :=
  fun _ _ h _ => ⟨_, _, _, _, rfl, rfl, h⟩

theorem within (view : Value) {body : Render α} (hbody : SideBySide R body) :
    SideBySide R (Render.within view body) := by
  intro e e' h frame
  obtain ⟨result, after, e₁, e₁', hrun, hrun', h'⟩ := hbody h (frame.push view)
  rw [Render.run_within, Render.run_within, hrun, hrun']
  exact ⟨_, _, _, _, rfl, rfl, h'⟩

/-- An operation that has the same outcome in engines that are related. -/
theorem onEngine {operation : Engine → Except SyntaxError α × Engine}
    (hoperation : ∀ ⦃e e' : Engine⦄, R e e' →
      (operation e).1 = (operation e').1 ∧ R (operation e).2 (operation e').2) :
    SideBySide R (Render.onEngine operation) := by
  intro e e' h frame
  obtain ⟨hresult, h'⟩ := hoperation h
  rw [Render.run_onEngine, Render.run_onEngine, hresult]
  exact ⟨_, _, _, _, rfl, rfl, h'⟩

theorem attempt {body : Render α} (hbody : SideBySide R body) :
    SideBySide R (Render.attempt body) := by
  intro e e' h frame
  obtain ⟨result, after, e₁, e₁', hrun, hrun', h'⟩ := hbody h frame
  rw [Render.run_attempt, Render.run_attempt, hrun, hrun']
  rcases result with (error | _) | a <;> exact ⟨_, _, _, _, rfl, rfl, h'⟩

end SideBySide

/-- **What is made of the steps of rendering goes the same way in related engines**, if compiling a
text and fetching a partial do. -/
theorem Stepwise.sideBySide {R : Engine → Engine → Prop}
    (hcompile : ∀ ⦃e e' : Engine⦄, R e e' → ∀ text,
      (e.compile templateName .standard text).1 = (e'.compile templateName .standard text).1 ∧
        R (e.compile templateName .standard text).2 (e'.compile templateName .standard text).2)
    (hload : ∀ ⦃e e' : Engine⦄, R e e' → ∀ name,
      (e.loadPartial name).1 = (e'.loadPartial name).1 ∧
        R (e.loadPartial name).2 (e'.loadPartial name).2)
    {x : Render α} (h : Stepwise x) : SideBySide R x := by
  induction h with
  | pure a => exact .pure a
  | tooDeep => exact .throw .tooDeep
  | bind _ _ ihx ihf => exact .bind ihx ihf
  | view => exact .view
  | lookup name => exact .lookup name
  | within view _ ih => exact .within view ih
  | attempt _ ih => exact .attempt ih
  | compile text => exact .onEngine fun _ _ h => hcompile h text
  | loadPartial name => exact .onEngine fun _ _ h => hload h name

end LiveTable.Template
