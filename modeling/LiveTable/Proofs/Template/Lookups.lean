import LiveTable.Proofs.Template.Escaping
import LiveTable.Proofs.Template.Rounds
import LiveTable.Proofs.Text.Parts

/-!
# What a template looks up

Over data without lambdas a template without partials has a text that depends on nothing but what
the names in its tags stand for: not on other data, not on how the frame came about, and not on what
its engine has done before. So data that is missing is never a fault, and data that no tag looks up
never shows.

* `names tokens`: the names that the tags of a template look up, at any depth;
* `lookIn look r`: what names stand for in a round, when around it they stand for `look`;
* `textFor look tokens`: the text of a template when names stand for `look`;
* `textFor_congr`: it depends on what the names in the tags stand for;
* `Frame.Grown`, `Frame.Grown.truthful`: a frame as it comes about remembers what names stand for;
* `Writes x out`: in a frame in which names stand for `look` the computation gives `out look`;
* `writes_ofTokens`: rendering a template gives its text;
* `walkChain_insert`: data under another name does not matter;
* `exists_rendersTo`: rendering depends on what the tags look up.
-/

namespace LiveTable.Template

/-! ### Names -/

mutual

/-- The names that a token looks up, at any depth. -/
def Token.names : Token → List String
  | .leaf (.escaped name) _ | .leaf (.raw name) _ => [name]
  | .leaf _ _ => []
  | .block _ name _ children _ => name :: Template.names children

/-- The names that the tags of a template look up, at any depth. -/
def names : List Token → List String
  | [] => []
  | token :: tokens => token.names ++ names tokens

end

/-- What a name stands for in a round, when around it names stand for `look`: a view in front comes
first, and a dot alone is that view. -/
def lookIn (look : String → Value) : Option Value → String → Value
  | none, name => look name
  | some view, name =>
    if name = "." then view
    else if (walk view (parts name)).isNull then look name
    else walk view (parts name)

theorem lookIn_congr {look look' : String → Value} {name : String} (h : look name = look' name)
    (r : Option Value) : lookIn look r name = lookIn look' r name := by
  cases r with
  | none => exact h
  | some view => rw [lookIn, lookIn, h]

/-! ### Texts -/

mutual

/-- The text of a token when names stand for `look`. -/
def Token.textFor (look : String → Value) : Token → String
  | .leaf (.text s) _ => s
  | .leaf (.escaped name) _ => Html.escape (look name).display
  | .leaf (.raw name) _ => (look name).display
  | .leaf _ _ => ""
  | .block false name _ children _ =>
    String.join ((rounds (look name)).map fun r => Template.textFor (lookIn look r) children)
  | .block true name _ children _ =>
    if (rounds (look name)).isEmpty then Template.textFor look children else ""

/-- The text of a template when names stand for `look`. -/
def textFor (look : String → Value) : List Token → String
  | [] => ""
  | token :: tokens => token.textFor look ++ textFor look tokens

end

mutual

theorem Token.textFor_congr {look look' : String → Value} :
    ∀ token : Token, (∀ name ∈ token.names, look name = look' name) →
      token.textFor look = token.textFor look'
  | .leaf (.text _) _, _ | .leaf (.comment _) _, _ | .leaf (.partialRef _) _, _
  | .leaf (.delimiters _) _, _ => by simp only [Token.textFor]
  | .leaf (.escaped name) _, h => by
    rw [Token.textFor, Token.textFor, h name (by simp [Token.names])]
  | .leaf (.raw name) _, h => by
    rw [Token.textFor, Token.textFor, h name (by simp [Token.names])]
  | .block inverted name _ children _, h => by
    rw [Token.names, List.forall_mem_cons] at h
    obtain ⟨hname, hchildren⟩ := h
    cases inverted with
    | false =>
      -- in each round the same view comes in front
      have hrounds : ∀ r, Template.textFor (lookIn look r) children =
          Template.textFor (lookIn look' r) children := fun r =>
        Template.textFor_congr children fun other hother => lookIn_congr (hchildren other hother) r
      simp only [Token.textFor, hname, hrounds]
    | true =>
      rw [Token.textFor, Token.textFor, hname, Template.textFor_congr children hchildren]

/-- **The text depends on what the names in the tags stand for.** -/
theorem textFor_congr {look look' : String → Value} :
    ∀ tokens : List Token, (∀ name ∈ names tokens, look name = look' name) →
      textFor look tokens = textFor look' tokens
  | [], _ => by rw [textFor, textFor]
  | token :: tokens, h => by
    rw [names, List.forall_mem_append] at h
    rw [textFor, textFor, token.textFor_congr h.1, textFor_congr tokens h.2]

end

/-! ### Frames -/

namespace Frame

/-- A frame as it comes about: views are put in front and names are looked up, in any order. -/
inductive Grown : Frame → Prop where
  | root (view : Value) : Grown (root view)
  | push {f : Frame} (h : Grown f) (view : Value) : Grown (f.push view)
  | lookup {f : Frame} (h : Grown f) (name : String) : Grown (f.lookup name).2

/-- What the frame remembers of a name is what the name stands for. -/
def Truthful (f : Frame) : Prop :=
  ∀ name value, f.memo.get? name = some value → value = f.resolve name

/-- A truthful frame in whose views no lambda is. -/
structure Plain (f : Frame) : Prop where
  views : ∀ view ∈ f.views, view.lambdaFree
  truthful : f.Truthful

variable {f : Frame}

theorem views_lookup (f : Frame) (name : String) : (f.lookup name).2.views = f.views := by
  unfold Frame.lookup
  split <;> rfl

/-- What names stand for depends on the views. -/
theorem resolve_congr {f g : Frame} (h : f.views = g.views) : f.resolve = g.resolve := by
  funext name
  obtain ⟨hview, -⟩ : f.view = g.view ∧ f.outer = g.outer := List.cons.inj h
  rw [resolve, resolve, hview, h]

theorem resolve_lookup (f : Frame) (name : String) : (f.lookup name).2.resolve = f.resolve :=
  resolve_congr (f.views_lookup name)

theorem resolve_push (f : Frame) (view : Value) (name : String) :
    (f.push view).resolve name = lookIn f.resolve (some view) name := by
  rw [resolve, lookIn]
  split
  · rfl
  · rename_i hdot
    rw [resolve, if_neg hdot]
    rfl

/-- A truthful frame gives what the name stands for. -/
theorem Truthful.lookup_fst (h : f.Truthful) (name : String) :
    (f.lookup name).1 = f.resolve name := by
  unfold Frame.lookup
  split
  · exact h name _ ‹_›
  · rfl

theorem Truthful.lookup (h : f.Truthful) (name : String) : (f.lookup name).2.Truthful := by
  intro other value hvalue
  rw [resolve_lookup]
  unfold Frame.lookup at hvalue
  split at hvalue
  · exact h other value hvalue
  · rw [Dict.get?_insert] at hvalue
    split at hvalue
    · rename_i hother
      rw [← hother]
      exact (Option.some.inj hvalue).symm
    · exact h other value hvalue

/-- **A frame is truthful**, however it came about. -/
theorem Grown.truthful (h : f.Grown) : f.Truthful := by
  induction h with
  | root view => exact nofun
  | push _ view _ => exact nofun
  | lookup _ name ih => exact ih.lookup name

/-- Rendering in a frame is one of the ways in which frames come about. -/
theorem Grown.render (h : f.Grown) (depth : Nat) (program : Program) (e : Engine) :
    ((program.render depth).run.run ⟨e, f⟩).run.2.frame.Grown := by
  obtain ⟨names, hnames⟩ := (stepwise_render depth program).exists_lookups ⟨e, f⟩
  rw [hnames]
  clear hnames
  dsimp only
  induction names generalizing f with
  | nil => exact h
  | cons name names ih => exact ih (h.lookup name)

namespace Plain

theorem push (h : f.Plain) {view : Value} (hview : view.lambdaFree) : (f.push view).Plain where
  views := List.forall_mem_cons.2 ⟨hview, h.views⟩
  truthful := nofun

theorem lambdaFree (h : f.Plain) : f.LambdaFree where
  views := h.views
  memo name value hvalue := by
    rw [h.truthful name value hvalue]
    exact @LambdaFree.resolve ⟨f.view, f.outer, []⟩ ⟨h.views, nofun⟩ name

theorem lookup (h : f.Plain) (name : String) : (f.lookup name).2.Plain where
  views := by
    rw [views_lookup]
    exact h.views
  truthful := h.truthful.lookup name

theorem lookup_ne_lambda (h : f.Plain) (name : String) (identity : Nat) (action : Action Value) :
    (f.lookup name).1 ≠ .lambda identity action := by
  intro heq
  have hfree := (h.lambdaFree.lookup name).1
  rw [heq] at hfree
  cases hfree

end Plain

end Frame

/-! ### Rendering -/

/-- In a frame in which names stand for `look` the computation gives `out look`, the same in every
engine, leaves the engine alone, and names stand for the same afterwards. -/
def Writes {α : Type} (x : Render α) (out : (String → Value) → α) : Prop :=
  ∀ f : Frame, f.Plain → ∃ after : Frame, after.Plain ∧ after.resolve = f.resolve ∧
    ∀ e, (x.run.run ⟨e, f⟩).run = (.ok (out f.resolve), ⟨e, after⟩)

namespace Writes

variable {α β : Type}

theorem pure (a : α) : Writes (pure a) fun _ => a := fun f hf => ⟨f, hf, rfl, fun _ => rfl⟩

theorem bind {x : Render α} {a : (String → Value) → α} {g : α → Render β}
    {b : α → (String → Value) → β} (hx : Writes x a) (hg : ∀ v, Writes (g v) (b v)) :
    Writes (x >>= g) fun look => b (a look) look := by
  intro f hf
  obtain ⟨mid, hmid, hsame, hrun⟩ := hx f hf
  obtain ⟨after, hafter, hsame', hrest⟩ := hg (a f.resolve) mid hmid
  refine ⟨after, hafter, hsame'.trans hsame, fun e => ?_⟩
  rw [Render.run_bind, hrun]
  exact (hrest e).trans (by rw [hsame])

theorem interpolate {enter : Program → Render String} (name : String) :
    Writes (interpolate enter name) fun look => look name := by
  intro f hf
  refine ⟨_, hf.lookup name, f.resolve_lookup name, fun e => ?_⟩
  have hvalue := hf.truthful.lookup_fst name
  have hlambda := hf.lookup_ne_lambda name
  rw [Template.interpolate, Render.run_bind, Render.run_lookup]
  dsimp only
  rw [hvalue] at hlambda ⊢
  cases hcase : f.resolve name with
  | lambda identity action => exact absurd hcase (hlambda identity action)
  | _ => rfl

theorem mapM {g : β → Render α} {out : β → (String → Value) → α} {items : List β}
    (h : ∀ b ∈ items, Writes (g b) (out b)) :
    Writes (items.mapM g) fun look => items.map fun b => out b look := by
  induction items with
  | nil => exact pure []
  | cons b items ih =>
    obtain ⟨hb, hitems⟩ := List.forall_mem_cons.1 h
    rw [List.mapM_cons]
    exact .bind hb fun first => .bind (ih hitems) fun rest => .pure (first :: rest)

variable {body : Render String} {out : (String → Value) → String}

theorem round (h : Writes body out) {r : Option Value} (hr : ∀ view ∈ r, view.lambdaFree) :
    Writes (body.round r) fun look => out (lookIn look r) := by
  cases r with
  | none => exact h
  | some view =>
    intro f hf
    obtain ⟨after, -, -, hrun⟩ := h (f.push view) (hf.push (hr view rfl))
    refine ⟨f, hf, rfl, fun e => ?_⟩
    have hlook : (f.push view).resolve = lookIn f.resolve (some view) :=
      funext (f.resolve_push view)
    rw [Render.round, Render.run_within, hrun, hlook]

theorem inRounds (h : Writes body out) {rs : List (Option Value)}
    (hrs : ∀ r ∈ rs, ∀ view ∈ r, view.lambdaFree) :
    Writes (inRounds body rs) fun look => String.join (rs.map fun r => out (lookIn look r)) :=
  .bind (.mapM fun r hr => h.round (hrs r hr)) fun texts => .pure (String.join texts)

end Writes

/-- The views of the rounds of a value without lambdas are without lambdas. -/
theorem lambdaFree_of_mem_rounds {value : Value} (h : value.lambdaFree) :
    ∀ r ∈ rounds value, ∀ view ∈ r, view.lambdaFree := by
  intro r hr view hview
  cases value with
  | array items =>
    obtain ⟨item, hitem, rfl⟩ := List.mem_map.1 hr
    obtain rfl := Option.some.inj hview
    exact Value.lambdaFree_of_mem h hitem
  | object entries =>
    obtain rfl := List.mem_singleton.1 hr
    obtain rfl := Option.some.inj hview
    exact h
  | lambda identity action => cases h
  | _ =>
    -- no view is put in front
    rw [rounds] at hr
    · split at hr
      · obtain rfl := List.mem_singleton.1 hr
        cases hview
      · cases hr
    all_goals
      intros
      contradiction

section Sections

variable {enter : Program → Render String} {body : List Node} {out : (String → Value) → String}

theorem writes_block (h : Writes (renderNodes enter body) out) (name : String)
    (text : Thunk String) :
    Writes (renderNode enter (.block name body text)) fun look =>
      String.join ((rounds (look name)).map fun r => out (lookIn look r)) := by
  intro f hf
  have hvalue := hf.truthful.lookup_fst name
  have hfree : (f.resolve name).lambdaFree := hvalue ▸ (hf.lambdaFree.lookup name).1
  obtain ⟨after, hafter, hsame, hrun⟩ :=
    h.inRounds (lambdaFree_of_mem_rounds hfree) _ (hf.lookup name)
  refine ⟨after, hafter, hsame.trans (f.resolve_lookup name), fun e => ?_⟩
  rw [run_block (hf.lookup_ne_lambda name), hvalue]
  exact (hrun e).trans (by rw [f.resolve_lookup])

theorem writes_inverted (h : Writes (renderNodes enter body) out) (name : String) :
    Writes (renderNode enter (.inverted name body)) fun look =>
      if (rounds (look name)).isEmpty then out look else "" := by
  intro f hf
  have hvalue := hf.truthful.lookup_fst name
  obtain ⟨after, hafter, hsame, hrun⟩ := h _ (hf.lookup name)
  by_cases hempty : (rounds (f.resolve name)).isEmpty
  · refine ⟨after, hafter, hsame.trans (f.resolve_lookup name), fun e => ?_⟩
    rw [run_inverted, hvalue, if_pos hempty]
    dsimp only
    rw [if_pos hempty, ← f.resolve_lookup name]
    exact hrun e
  · refine ⟨_, hf.lookup name, f.resolve_lookup name, fun e => ?_⟩
    rw [run_inverted, hvalue, if_neg hempty]
    dsimp only
    rw [if_neg hempty]
    rfl

theorem writes_ofLeaf : ∀ (l : Leaf) (span : Span), (∀ name, l ≠ .partialRef name) →
    Writes (renderNodes enter (Node.ofLeaf l)) fun look => (Token.leaf l span).textFor look
  | .text s, _, _ => by
    simp only [Node.ofLeaf, renderNodes_singleton, renderNode, Token.textFor]
    exact .pure s
  | .escaped name, _, _ => by
    simp only [Node.ofLeaf, renderNodes_singleton, renderNode, Token.textFor]
    exact .bind (.interpolate name) fun value => .pure (Html.escape value.display)
  | .raw name, _, _ => by
    simp only [Node.ofLeaf, renderNodes_singleton, renderNode, Token.textFor]
    exact .bind (.interpolate name) fun value => .pure value.display
  | .comment _, _, _ | .delimiters _, _, _ => by
    simp only [Node.ofLeaf, renderNodes, Token.textFor]
    exact .pure ""
  | .partialRef name, _, h => absurd rfl (h name)

theorem writes_append {a b : List Node} {first rest : (String → Value) → String}
    (ha : Writes (renderNodes enter a) first) (hb : Writes (renderNodes enter b) rest) :
    Writes (renderNodes enter (a ++ b)) fun look => first look ++ rest look := by
  rw [renderNodes_append]
  exact .bind ha fun text => .bind hb fun more => .pure (text ++ more)

end Sections

section Tokens

variable {enter : Program → Render String} {source : List Char}

mutual

theorem writes_ofToken : ∀ token : Token, (∀ name, .partialRef name ∉ token.leaves) →
    Writes (renderNodes enter (Program.ofToken source token)) fun look => token.textFor look
  | .leaf l span, h => by
    rw [Program.ofToken]
    refine writes_ofLeaf l span ?_
    rintro name rfl
    exact h name List.mem_cons_self
  | .block false name _ children _, h => by
    simp only [Program.ofToken, renderNodes_singleton, Token.textFor]
    exact writes_block (writes_ofTokens children h) name _
  | .block true name _ children _, h => by
    simp only [Program.ofToken, renderNodes_singleton, Token.textFor]
    exact writes_inverted (writes_ofTokens children h) name

/-- **Rendering a template without partials over data without lambdas gives its text.** -/
theorem writes_ofTokens : ∀ tokens : List Token, (∀ name, .partialRef name ∉ leaves tokens) →
    Writes (renderNodes enter (Program.ofTokens source tokens)) fun look => textFor look tokens
  | [], _ => by
    simp only [Program.ofTokens, renderNodes, textFor]
    exact .pure ""
  | token :: tokens, h => by
    simp only [leaves, List.mem_append, not_or] at h
    simp only [Program.ofTokens, textFor]
    exact writes_append (writes_ofToken token fun name => (h name).1)
      (writes_ofTokens tokens fun name => (h name).2)

end

end Tokens

/-! ### Other data -/

theorem splitWhere_ne_nil (p : Char → Bool) (cs : List Char) : Text.splitWhere p cs ≠ [] := by
  rw [Text.splitWhere_eq_splitOnP]
  exact List.splitOnP_ne_nil p cs

theorem parts_ne_nil (name : String) : parts name ≠ [] := by
  unfold parts
  split
  · exact mt List.map_eq_nil_iff.1 (splitWhere_ne_nil _ _)
  · exact List.cons_ne_nil _ _

/-- What a path leads to in an object depends on the entry under its first part. -/
theorem walk_insert {path : List String} {key : String} (hpath : path ≠ [])
    (hkey : path.head? ≠ some key) (entries : List (String × Value)) (value : Value) :
    walk (.object (Dict.insert entries key value)) path = walk (.object entries) path := by
  obtain ⟨first, path, rfl⟩ := List.exists_cons_of_ne_nil hpath
  have hfirst : key ≠ first := fun heq => hkey (congrArg some heq.symm)
  have hget : (Value.object (Dict.insert entries key value)).get first =
      (Value.object entries).get first := by
    rw [Value.get, Value.get, Dict.get?_insert, if_neg hfirst]
  cases path with
  | nil => exact hget
  | cons second path =>
    change walkPath _ (second :: path) = walkPath _ (second :: path)
    rw [hget]

/-- **Data under another name does not matter**, wherever in the chain of views it is. -/
theorem walkChain_insert {path : List String} {key : String} (hpath : path ≠ [])
    (hkey : path.head? ≠ some key) (entries : List (String × Value)) (value : Value)
    (front back : List Value) :
    walkChain path (front ++ .object (Dict.insert entries key value) :: back) =
      walkChain path (front ++ .object entries :: back) := by
  induction front with
  | nil =>
    rw [List.nil_append, List.nil_append, walkChain, walkChain,
      walk_insert hpath hkey entries value]
  | cons view front ih => simp only [List.cons_append, walkChain, ih]

/-! ### What rendering depends on -/

/-- The template has the text `out` in a frame: whatever was done with the engine that compiles it,
and whatever engine it is rendered with, which is left as it is. -/
def RendersTo (d : Delimiters) (text : String) (f : Frame) (out : String) : Prop :=
  ∀ deeds name, ∃ program,
    ((Engine.empty.after deeds).compile name d text).1 = .ok program ∧
      ∀ e : Engine, (e.runIn program f).1 = .ok out ∧ (e.runIn program f).2.engine = e

section Results

variable {d : Delimiters} {text : String} {tokens : List Token} {f : Frame}

theorem rendersTo_textFor (hparse : parse d text.toList = .ok tokens)
    (hpartials : ∀ name, .partialRef name ∉ leaves tokens) (hf : f.Plain) :
    RendersTo d text f (textFor f.resolve tokens) := by
  intro deeds name
  refine ⟨Program.ofTokens text.toList tokens, ?_, fun e => ?_⟩
  · rw [Engine.compile_eq _ _ _ _ (Engine.coherent_empty.after deeds).sound]
    exact compile_eq_ok_iff.2 ⟨tokens, hparse, rfl⟩
  · obtain ⟨depth, hdepth⟩ : ∃ depth, depthLimit = depth + 1 := ⟨1999999, rfl⟩
    have hwrites : Writes (renderNodes (Program.render depth)
        (Program.ofTokens text.toList tokens)) fun look => textFor look tokens :=
      writes_ofTokens tokens hpartials
    obtain ⟨after, -, -, hrun⟩ := hwrites f hf
    have hresult : e.runIn (Program.ofTokens text.toList tokens) f =
        (.ok (textFor f.resolve tokens), ⟨e, after⟩) := by
      rw [Engine.runIn, hdepth]
      exact hrun e
    rw [hresult]
    exact ⟨rfl, rfl⟩

/-- **Rendering depends only on what the tags look up.** Over data without lambdas a template
without partials has a text in every frame, in every engine, whatever that has done before. It has
the same text in every frame in which the names in its tags stand for the same; so with one more
view in front in which none of them is found, and with data under another name anywhere in the chain
of views. -/
theorem exists_rendersTo (hparse : parse d text.toList = .ok tokens)
    (hpartials : ∀ name, .partialRef name ∉ leaves tokens) (hf : f.Grown)
    (hviews : ∀ view ∈ f.views, view.lambdaFree) :
    ∃ out, RendersTo d text f out ∧
      (∀ g : Frame, g.Grown → (∀ view ∈ g.views, view.lambdaFree) →
        (∀ name ∈ names tokens, (f.lookup name).1 = (g.lookup name).1) →
        RendersTo d text g out) ∧
      (∀ view : Value, view.lambdaFree →
        (∀ name ∈ names tokens, name ≠ "." ∧ walk view (parts name) = .null) →
        RendersTo d text (f.push view) out) ∧
      ∀ (g : Frame) (front back : List Value) (entries : List (String × Value)) (key : String)
          (value : Value), g.Grown → (∀ view ∈ g.views, view.lambdaFree) →
        f.views = front ++ .object entries :: back →
        g.views = front ++ .object (Dict.insert entries key value) :: back →
        (∀ name ∈ names tokens, name ≠ "." ∧ (parts name).head? ≠ some key) →
        RendersTo d text g out := by
  have hsame : ∀ g : Frame, g.Plain →
      (∀ name ∈ names tokens, f.resolve name = g.resolve name) →
      RendersTo d text g (textFor f.resolve tokens) := by
    intro g hg hagree
    rw [textFor_congr tokens hagree]
    exact rendersTo_textFor hparse hpartials hg
  have hplain : f.Plain := ⟨hviews, hf.truthful⟩
  refine ⟨_, rendersTo_textFor hparse hpartials hplain, fun g hg hgviews hagree => ?_,
    fun view hview hnone => ?_, fun g front back entries key value hg hgviews hfv hgv hkey => ?_⟩
  · refine hsame g ⟨hgviews, hg.truthful⟩ fun name hname => ?_
    rw [← hf.truthful.lookup_fst, ← hg.truthful.lookup_fst]
    exact hagree name hname
  · refine hsame _ (hplain.push hview) fun name hname => ?_
    obtain ⟨hdot, hnull⟩ := hnone name hname
    rw [Frame.resolve_push, lookIn, if_neg hdot, hnull]
    rfl
  · refine hsame g ⟨hgviews, hg.truthful⟩ fun name hname => ?_
    obtain ⟨hdot, hother⟩ := hkey name hname
    rw [Frame.resolve, Frame.resolve, if_neg hdot, if_neg hdot, hfv, hgv,
      walkChain_insert (parts_ne_nil name) hother]

end Results

/-- A list of films with their makers. -/
def filmBill : String :=
  "\x7b\x7b#films\x7d\x7d\x7b\x7btitle\x7d\x7d, \x7b\x7bby.name\x7d\x7d; \x7b\x7b/films\x7d\x7d"

/-- A film without a maker, and one with a maker of its own. -/
def billedFilms : Value :=
  .array [.object [("title", .string "Dawn")],
    .object [("title", .string "Dusk"), ("by", .object [("name", .string "crew")])]]

/-- The films, and a maker around them. -/
def billFrame : Frame :=
  .root (.object [("films", billedFilms), ("by", .object [("name", .string "studio")])])

/-- The films and the maker among other data, behind another view, the maker looked up before. -/
def otherBillFrame : Frame :=
  (((Frame.root (.object [("year", .int 1979), ("films", billedFilms),
    ("by", .object [("age", .int 41), ("name", .string "studio")])])).push
      (.string "title")).lookup "by.name").2

/-- The tokens of the list. -/
def filmBillTokens : List Token :=
  [.block false "films" ⟨0, 10⟩ [.leaf (.escaped "title") ⟨10, 19⟩, .leaf (.text ", ") ⟨19, 21⟩,
    .leaf (.escaped "by.name") ⟨21, 32⟩, .leaf (.text "; ") ⟨32, 34⟩] 34]

/-- Both frames give the same text. -/
theorem exists_rendersTo_filmBill :
    parse .standard filmBill.toList = .ok filmBillTokens ∧
      names filmBillTokens = ["films", "title", "by.name"] ∧
      RendersTo .standard filmBill billFrame "Dawn, studio; Dusk, crew; " ∧
      RendersTo .standard filmBill otherBillFrame "Dawn, studio; Dusk, crew; " := by
  have hparse : parse .standard filmBill.toList = .ok filmBillTokens := by with_unfolding_all rfl
  have hnames : names filmBillTokens = ["films", "title", "by.name"] := by
    simp only [filmBillTokens, names, Token.names, List.append_nil, List.nil_append,
      List.cons_append]
  have hpartials : ∀ name, .partialRef name ∉ leaves filmBillTokens := by
    intro name
    simp [filmBillTokens, leaves, Token.leaves]
  have hagree : ∀ name ∈ names filmBillTokens,
      (billFrame.lookup name).1 = (otherBillFrame.lookup name).1 := by
    rw [hnames]
    simp only [List.forall_mem_cons, List.not_mem_nil, IsEmpty.forall_iff, implies_true, and_true]
    exact ⟨rfl, rfl, rfl⟩
  have hviews : ∀ view ∈ billFrame.views, view.lambdaFree := List.all_eq_true.1 (by decide)
  have hotherViews : ∀ view ∈ otherBillFrame.views, view.lambdaFree :=
    List.all_eq_true.1 (by decide)
  obtain ⟨out, hout, hsame, -⟩ := exists_rendersTo hparse hpartials (.root _) hviews
  have hother := hsame otherBillFrame (.lookup (.push (.root _) _) _) hotherViews hagree
  obtain ⟨program, hprogram, hrun⟩ := hout [] templateName
  have hrender : ((Engine.empty.compile templateName .standard filmBill).1.toOption.bind
      fun program => (Engine.empty.runIn program billFrame).1.toOption) =
        some "Dawn, studio; Dusk, crew; " := by
    decide +kernel
  rw [Engine.after_nil] at hprogram
  rw [hprogram] at hrender
  obtain rfl : out = "Dawn, studio; Dusk, crew; " := by
    rw [← Option.some_inj, ← hrender]
    exact (congrArg Except.toOption (hrun Engine.empty).1).symm
  exact ⟨hparse, hnames, hout, hother⟩

end LiveTable.Template
