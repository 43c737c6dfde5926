import LiveTable.Template.Render

/-!
# Data without lambdas

Nothing that is looked up in data without lambdas is a lambda, or holds one. Such data is only
read, so a computation that does not ask the engine for anything cannot fail on it.

* `Value.lambdaFree v`: no lambda is in `v`, at any depth;
* `Value.lambdaFree_get`: nor in its properties;
* `Frame.LambdaFree f`: no lambda is in the views of a frame, nor in what it remembers;
* `Frame.LambdaFree.lookup`: nor in what a name stands for;
* `Yields x P`: in such a frame the computation gives a result with `P` and leaves the engine alone;
* `Yields.bind`, `Yields.within`, `Yields.mapM`: how computations that do so are put together.
-/

namespace LiveTable

namespace Value

mutual

/-- No lambda is in the value, at any depth. -/
def lambdaFree : Value → Bool
  | array items => lambdaFreeItems items
  | object entries => lambdaFreeEntries entries
  | lambda _ _ => false
  | _ => true

/-- No lambda is in the items. -/
def lambdaFreeItems : List Value → Bool
  | [] => true
  | v :: rest => v.lambdaFree && lambdaFreeItems rest

/-- No lambda is in the values of the entries. -/
def lambdaFreeEntries : List (String × Value) → Bool
  | [] => true
  | (_, v) :: rest => v.lambdaFree && lambdaFreeEntries rest

end

theorem lambdaFree_of_mem {items : List Value} (h : lambdaFreeItems items) {v : Value}
    (hv : v ∈ items) : v.lambdaFree := by
  induction items with
  | nil => cases hv
  | cons w rest ih =>
    rw [lambdaFreeItems, Bool.and_eq_true] at h
    cases hv with
    | head => exact h.1
    | tail _ hv => exact ih h.2 hv

theorem lambdaFree_of_get? {entries : Dict String Value} (h : lambdaFreeEntries entries)
    {key : String} {v : Value} (hv : entries.get? key = some v) : v.lambdaFree := by
  induction entries with
  | nil => cases hv
  | cons entry rest ih =>
    obtain ⟨k, w⟩ := entry
    rw [lambdaFreeEntries, Bool.and_eq_true] at h
    rw [Dict.get?] at hv
    split at hv
    · cases hv
      exact h.1
    · exact ih h.2 hv

/-- A property that may be missing is null then. -/
theorem lambdaFree_getD {v? : Option Value} (h : ∀ v, v? = some v → v.lambdaFree) :
    (v?.getD null).lambdaFree := by
  cases v? with
  | none => rfl
  | some v => exact h v rfl

/-- **The properties of data without lambdas are without lambdas.** -/
theorem lambdaFree_get {v : Value} (h : v.lambdaFree) (key : String) : (v.get key).lambdaFree := by
  cases v with
  | object entries => exact lambdaFree_getD fun _ => lambdaFree_of_get? h
  | array items =>
    rw [get]
    split
    · rfl
    · refine lambdaFree_getD fun v hv => ?_
      obtain ⟨n, -, hn⟩ := Option.bind_eq_some_iff.1 hv
      exact lambdaFree_of_mem h (List.mem_of_getElem? hn)
  | string s =>
    rw [get]
    split <;> rfl
  | _ => rfl

end Value

namespace Template

/-! ### Names in such data -/

theorem lambdaFree_walkPath {path : List String} {view : Value} (h : view.lambdaFree) :
    (walkPath view path).lambdaFree := by
  induction path generalizing view with
  | nil => exact h
  | cons part path ih =>
    unfold walkPath
    split
    · exact ih (Value.lambdaFree_get h part)
    · exact h

theorem lambdaFree_walk {path : List String} {view : Value} (h : view.lambdaFree) :
    (walk view path).lambdaFree := by
  unfold walk
  split
  · exact Value.lambdaFree_get h _
  · exact lambdaFree_walkPath h

theorem lambdaFree_walkChain {path : List String} {views : List Value}
    (h : ∀ view ∈ views, view.lambdaFree) : (walkChain path views).lambdaFree := by
  induction views with
  | nil => rfl
  | cons view outer ih =>
    obtain ⟨hview, houter⟩ := List.forall_mem_cons.1 h
    simp only [walkChain]
    split
    · exact ih houter
    · exact lambdaFree_walk hview

namespace Frame

/-- No lambda is in the views of the frame, nor in what it remembers. -/
structure LambdaFree (f : Frame) : Prop where
  views : ∀ view ∈ f.views, view.lambdaFree
  memo : ∀ name value, f.memo.get? name = some value → value.lambdaFree

theorem lambdaFree_root {view : Value} (h : view.lambdaFree) : (root view).LambdaFree where
  views := List.forall_mem_singleton.2 h
  memo _ _ hname := by cases hname

variable {f : Frame}

theorem LambdaFree.push (h : f.LambdaFree) {view : Value} (hview : view.lambdaFree) :
    (f.push view).LambdaFree where
  views := List.forall_mem_cons.2 ⟨hview, h.views⟩
  memo _ _ hname := by cases hname

theorem LambdaFree.resolve (h : f.LambdaFree) (name : String) : (f.resolve name).lambdaFree := by
  unfold Frame.resolve
  split
  · exact h.views _ List.mem_cons_self
  · exact lambdaFree_walkChain h.views

/-- **What a name stands for is without lambdas**, and so is the frame that remembers it. -/
theorem LambdaFree.lookup (h : f.LambdaFree) (name : String) :
    (f.lookup name).1.lambdaFree ∧ (f.lookup name).2.LambdaFree := by
  unfold Frame.lookup
  split
  · exact ⟨h.memo name _ ‹_›, h⟩
  · refine ⟨h.resolve name, h.views, fun other value hvalue => ?_⟩
    rw [Dict.get?_insert] at hvalue
    split at hvalue
    · cases hvalue
      exact h.resolve name
    · exact h.memo other value hvalue

end Frame

/-! ### Computations over such data -/

/-- In a frame without lambdas the computation gives a result with `P`, the same in every engine,
leaves the engine alone and ends in such a frame. -/
def Yields {α : Type} (x : Render α) (P : α → Prop) : Prop :=
  ∀ frame : Frame, frame.LambdaFree → ∃ a after, P a ∧ after.LambdaFree ∧
    ∀ e, (x.run.run ⟨e, frame⟩).run = (.ok a, ⟨e, after⟩)

namespace Yields

variable {α β : Type} {P : α → Prop} {Q : β → Prop}

theorem pure {a : α} (h : P a) : Yields (pure a) P :=
  fun frame hframe => ⟨a, frame, h, hframe, fun _ => rfl⟩

theorem bind {x : Render α} {f : α → Render β} (hx : Yields x P)
    (hf : ∀ a, P a → Yields (f a) Q) : Yields (x >>= f) Q := by
  intro frame hframe
  obtain ⟨a, mid, ha, hmid, hrun⟩ := hx frame hframe
  obtain ⟨b, after, hb, hafter, hrest⟩ := hf a ha mid hmid
  refine ⟨b, after, hb, hafter, fun e => ?_⟩
  rw [Render.run_bind, hrun]
  exact hrest e

theorem lookup (name : String) : Yields (Render.lookup name) (·.lambdaFree) := by
  intro frame hframe
  obtain ⟨hvalue, hafter⟩ := hframe.lookup name
  exact ⟨_, _, hvalue, hafter, fun e => Render.run_lookup name ⟨e, frame⟩⟩

theorem within {view : Value} (hview : view.lambdaFree) {body : Render α} (h : Yields body P) :
    Yields (Render.within view body) P := by
  intro frame hframe
  obtain ⟨a, _, ha, -, hrun⟩ := h _ (hframe.push hview)
  refine ⟨a, frame, ha, hframe, fun e => ?_⟩
  rw [Render.run_within, hrun]

theorem mapM {f : β → Render α} {items : List β} (h : ∀ b ∈ items, Yields (f b) P) :
    Yields (items.mapM f) fun results => ∀ a ∈ results, P a := by
  induction items with
  | nil => exact .pure (List.forall_mem_nil _)
  | cons b items ih =>
    obtain ⟨hb, hitems⟩ := List.forall_mem_cons.1 h
    rw [List.mapM_cons]
    refine .bind hb fun a ha => .bind (ih hitems) fun results hresults => ?_
    exact .pure (List.forall_mem_cons.2 ⟨ha, hresults⟩)

end Yields

end Template

end LiveTable
