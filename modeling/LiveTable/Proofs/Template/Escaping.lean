import LiveTable.Proofs.Html.Entities
import LiveTable.Proofs.Template.Journal
import LiveTable.Proofs.Template.LambdaFree

/-!
# Escaped templates

A template without raw values and partials writes its own texts and escaped values, and nothing
else. So the data cannot bring in any character with a meaning in HTML.

* `leaves tokens`: the leaves of a tree, at any depth;
* `Leaf.guarded leaf`: the leaf is neither a raw value nor a partial;
* `Woven T s`: the text is made of texts with `T` and of escaped texts;
* `Woven.not_mem`, `Woven.entitiesOnly`: what such a text does not have, if no text with `T` has it;
* `Guarded T program`: the program writes texts with `T` and escaped values only;
* `guarded_ofTokens`: so does the program of a tree without raw values and partials;
* `yields_renderNodes`: the text of such a program over data without lambdas is woven of these;
* `exists_render_eq_of_guarded`: data cannot bring markup into such a template.
-/

namespace LiveTable.Template

/-! ### Leaves -/

mutual

/-- The leaves of a token, at any depth. -/
def Token.leaves : Token → List Leaf
  | .leaf leaf _ => [leaf]
  | .block _ _ _ children _ => Template.leaves children

/-- The leaves of a tree of tokens, at any depth. -/
def leaves : List Token → List Leaf
  | [] => []
  | token :: tokens => token.leaves ++ leaves tokens

end

/-- The leaf is neither a raw value nor a partial. -/
def Leaf.guarded : Leaf → Bool
  | .raw _ | .partialRef _ => false
  | _ => true

/-! ### Woven texts -/

variable {T : String → Prop}

/-- The text is made of texts with `T` and of escaped texts, in any order. -/
inductive Woven (T : String → Prop) : String → Prop where
  | nil : Woven T ""
  | text {s rest : String} : T s → Woven T rest → Woven T (s ++ rest)
  | escaped (s : String) {rest : String} : Woven T rest → Woven T (Html.escape s ++ rest)

namespace Woven

theorem of_text {s : String} (h : T s) : Woven T s := by
  have hwoven := text h .nil
  rwa [String.append_empty] at hwoven

theorem of_escaped (s : String) : Woven T (Html.escape s) := by
  have hwoven : Woven T _ := escaped s .nil
  rwa [String.append_empty] at hwoven

theorem append {a b : String} (ha : Woven T a) (hb : Woven T b) : Woven T (a ++ b) := by
  induction ha with
  | nil => rwa [String.empty_append]
  | text hs _ ih =>
    rw [String.append_assoc]
    exact .text hs ih
  | escaped s _ ih =>
    rw [String.append_assoc]
    exact .escaped s ih

theorem join {texts : List String} (h : ∀ s ∈ texts, Woven T s) : Woven T (String.join texts) := by
  induction texts with
  | nil => exact .nil
  | cons s texts ih =>
    obtain ⟨hs, htexts⟩ := List.forall_mem_cons.1 h
    rw [String.join_cons]
    exact hs.append (ih htexts)

/-- **Markup can only come from the texts.** -/
theorem not_mem {out : String} (h : Woven T out) {x : Char} (hx : x ∈ Html.markup)
    (htexts : ∀ s, T s → x ∉ s.toList) : x ∉ out.toList := by
  induction h with
  | nil => exact List.not_mem_nil
  | text hs _ ih =>
    rw [String.toList_append, List.mem_append, not_or]
    exact ⟨htexts _ hs, ih⟩
  | escaped s _ ih =>
    rw [String.toList_append, Html.toList_escape, List.mem_append, not_or]
    exact ⟨Html.not_mem_escapeChars hx s.toList, ih⟩

/-- **An ampersand that starts no entity can only come from the texts.** -/
theorem entitiesOnly {out : String} (h : Woven T out) (htexts : ∀ s, T s → '&' ∉ s.toList) :
    Html.EntitiesOnly out.toList := by
  induction h with
  | nil => exact Html.entitiesOnly_of_not_mem List.not_mem_nil
  | text hs _ ih =>
    rw [String.toList_append]
    exact (Html.entitiesOnly_of_not_mem (htexts _ hs)).append ih
  | escaped s _ ih =>
    rw [String.toList_append, Html.toList_escape]
    exact (Html.entitiesOnly_escapeChars s.toList).append ih

end Woven

/-! ### Guarded programs -/

mutual

/-- The instruction writes texts with `T` and escaped values only. -/
def Node.Guarded (T : String → Prop) : Node → Prop
  | .text s => T s
  | .escaped _ => True
  | .raw _ | .partialRef _ => False
  | .block _ body _ | .inverted _ body => Template.Guarded T body

/-- The instructions write texts with `T` and escaped values only. -/
def Guarded (T : String → Prop) : List Node → Prop
  | [] => True
  | node :: nodes => node.Guarded T ∧ Guarded T nodes

end

theorem Guarded.append {a b : Program} (ha : Guarded T a) (hb : Guarded T b) :
    Guarded T (a ++ b) := by
  induction a with
  | nil => exact hb
  | cons node a ih => exact ⟨ha.1, ih ha.2⟩

theorem guarded_ofLeaf {leaf : Leaf} (hleaf : leaf.guarded) (htext : ∀ s, leaf = .text s → T s) :
    Guarded T (Node.ofLeaf leaf) := by
  cases leaf with
  | text s => exact ⟨htext s rfl, trivial⟩
  | escaped name => exact ⟨trivial, trivial⟩
  | comment | delimiters => trivial
  | raw | partialRef => cases hleaf

section

variable {source : List Char}

mutual

theorem guarded_ofToken : ∀ token : Token,
    (∀ leaf ∈ token.leaves, leaf.guarded ∧ ∀ s, leaf = .text s → T s) →
    Guarded T (Program.ofToken source token)
  | .leaf leaf _, h => by
    obtain ⟨hleaf, htext⟩ := h leaf List.mem_cons_self
    exact guarded_ofLeaf hleaf htext
  | .block false _ _ children _, h => ⟨guarded_ofTokens children h, trivial⟩
  | .block true _ _ children _, h => ⟨guarded_ofTokens children h, trivial⟩

/-- **A tree without raw values and partials has a guarded program.** -/
theorem guarded_ofTokens : ∀ tokens : List Token,
    (∀ leaf ∈ leaves tokens, leaf.guarded ∧ ∀ s, leaf = .text s → T s) →
    Guarded T (Program.ofTokens source tokens)
  | [], _ => trivial
  | token :: tokens, h => by
    obtain ⟨htoken, htokens⟩ := List.forall_mem_append.1 h
    exact (guarded_ofToken token htoken).append (guarded_ofTokens tokens htokens)

end

end

/-! ### Rendering guarded programs -/

section

variable {enter : Program → Render String}

/-- Only a lambda is called for its value. -/
theorem yields_interpolate (name : String) : Yields (interpolate enter name) fun _ => True := by
  refine .bind (.lookup name) fun value hvalue => ?_
  cases value with
  | lambda identity action => cases hvalue
  | _ => exact .pure trivial

mutual

theorem yields_renderNode : ∀ node : Node, node.Guarded T → Yields (renderNode enter node) (Woven T)
  | .text _, h => .pure (.of_text h)
  | .escaped name, _ => .bind (yields_interpolate name) fun _ _ => .pure (.of_escaped _)
  | .block name body text, h => by
    have hbody := yields_renderNodes body h
    unfold renderNode
    refine .bind (.lookup name) fun value hvalue => ?_
    cases value with
    | array items =>
      refine .bind (.mapM fun item hitem => ?_) fun _ hparts => .pure (.join hparts)
      exact .within (Value.lambdaFree_of_mem hvalue hitem) hbody
    | object entries => exact .within hvalue hbody
    | lambda identity action => cases hvalue
    | _ =>
      dsimp only
      split
      · exact hbody
      · exact .pure .nil
  | .inverted name body, h => by
    have hbody := yields_renderNodes body h
    unfold renderNode
    refine .bind (.lookup name) fun value _ => ?_
    split
    · exact hbody
    · exact .pure .nil

/-- **Over data without lambdas a guarded program writes its texts and escaped values**, and asks
the engine for nothing. -/
theorem yields_renderNodes : ∀ nodes : List Node, Guarded T nodes →
    Yields (renderNodes enter nodes) (Woven T)
  | [], _ => .pure .nil
  | node :: nodes, h =>
    .bind (yields_renderNode node h.1) fun _ hfirst =>
      .bind (yields_renderNodes nodes h.2) fun _ hrest => .pure (hfirst.append hrest)

end

end

theorem exists_run_of_guarded {program : Program} (h : Guarded T program) {view : Value}
    (hview : view.lambdaFree) :
    ∃ out, Woven T out ∧ ∀ e : Engine, (e.run program view).1 = .ok out := by
  obtain ⟨depth, hdepth⟩ : ∃ depth, depthLimit = depth + 1 := ⟨1999999, rfl⟩
  have hyields : Yields (program.render depthLimit) (Woven T) := by
    rw [hdepth]
    exact yields_renderNodes program h
  obtain ⟨out, frame, hout, -, hrun⟩ := hyields _ (Frame.lambdaFree_root hview)
  refine ⟨out, hout, fun e => ?_⟩
  rw [Engine.run, Engine.runIn, hrun]

/-- **Data cannot bring markup into a template without raw values and partials.** Over data without
lambdas it has a text, the same in every engine, in which a character with a meaning in HTML stands
only if it stands in a text of the template; and if there is no ampersand in these, every ampersand
starts an entity. -/
theorem exists_render_eq_of_guarded {d : Delimiters} {text : String} {tokens : List Token}
    (hparse : parse d text.toList = .ok tokens) (hguarded : ∀ leaf ∈ leaves tokens, leaf.guarded)
    {view : Value} (hview : view.lambdaFree) :
    ∃ out,
      (∀ deeds, ((Engine.empty.after deeds).render d text view).1 = .ok out) ∧
      (∀ deeds program (e : Engine),
        ((Engine.empty.after deeds).compile templateName d text).1 = .ok program →
        (e.run program view).1 = .ok out) ∧
      (∀ x ∈ Html.markup, (∀ s, .text s ∈ leaves tokens → x ∉ s.toList) → x ∉ out.toList) ∧
      ((∀ s, .text s ∈ leaves tokens → '&' ∉ s.toList) → Html.EntitiesOnly out.toList) := by
  have hprogram : Guarded (.text · ∈ leaves tokens) (Program.ofTokens text.toList tokens) :=
    guarded_ofTokens tokens fun leaf hleaf => ⟨hguarded leaf hleaf, fun _ heq => heq ▸ hleaf⟩
  obtain ⟨out, hout, hrun⟩ := exists_run_of_guarded hprogram hview
  have hcompile : ∀ deeds, ((Engine.empty.after deeds).compile templateName d text).1 =
      .ok (Program.ofTokens text.toList tokens) := fun deeds => by
    rw [Engine.compile_eq _ _ _ _ (Engine.coherent_empty.after deeds).sound]
    exact compile_eq_ok_iff.2 ⟨tokens, hparse, rfl⟩
  refine ⟨out, fun deeds => ?_, fun deeds program e hprogram => ?_, fun x => hout.not_mem,
    hout.entitiesOnly⟩
  · have hresult := hcompile deeds
    rw [Engine.render]
    split
    · rename_i program e heq
      rw [heq] at hresult
      obtain rfl : program = _ := Except.ok.inj hresult
      exact hrun e
    · rename_i error e heq
      rw [heq] at hresult
      cases hresult
  · rw [hcompile] at hprogram
    obtain rfl : _ = program := Except.ok.inj hprogram
    exact hrun e

/-- A list of films, with a remark and what is said when there are none. -/
def filmCard : String :=
  "Films: \x7b\x7b#films\x7d\x7d\x7b\x7btitle\x7d\x7d (\x7b\x7bcast\x7d\x7d); " ++
    "\x7b\x7b/films\x7d\x7d\x7b\x7b! by title \x7d\x7d" ++
    "\x7b\x7b^films\x7d\x7dnone\x7b\x7b/films\x7d\x7d"

/-- A film whose title is markup, and whose cast is a list. -/
def markedFilms : Value :=
  .object [("films", .array [.object [("title", .string "<b>\"Tom & Jerry\"</b>"),
    ("cast", .array [.string "Tom's cat", .int 2])]])]

/-- The leaf is a text with markup or an ampersand. -/
def Leaf.marked : Leaf → Bool
  | .text s => ('&' :: Html.markup).any s.toList.contains
  | _ => false

theorem render_filmCard_markedFilms :
    ∃ tokens, parse .standard filmCard.toList = .ok tokens ∧
      (∀ leaf ∈ leaves tokens, leaf.guarded) ∧ markedFilms.lambdaFree ∧
      ∃ out, (Engine.empty.render .standard filmCard markedFilms).1 = .ok out ∧
        out = "Films: &lt;b&gt;&quot;Tom &amp; Jerry&quot;&lt;&#x2F;b&gt; (Tom&#39;s cat,2); " ∧
        (∀ x ∈ Html.markup, x ∉ out.toList) ∧ Html.EntitiesOnly out.toList := by
  have hleaves : ((parse .standard filmCard.toList).toOption.any fun tokens =>
      (leaves tokens).all fun leaf => leaf.guarded && !leaf.marked) = true := by decide +kernel
  cases hparse : parse .standard filmCard.toList with
  | error fault =>
    rw [hparse] at hleaves
    cases hleaves
  | ok tokens =>
    rw [hparse] at hleaves
    simp only [Except.toOption, Option.any_some, List.all_eq_true, Bool.and_eq_true,
      Bool.not_eq_true'] at hleaves
    have hguarded : ∀ leaf ∈ leaves tokens, leaf.guarded := fun leaf hleaf =>
      (hleaves leaf hleaf).1
    have hplain : ∀ x ∈ '&' :: Html.markup, ∀ s, .text s ∈ leaves tokens → x ∉ s.toList := by
      intro x hx s hs hmem
      have hmarked := (hleaves _ hs).2
      rw [Leaf.marked, List.any_eq_false] at hmarked
      exact hmarked x hx (List.contains_iff_mem.2 hmem)
    have hview : markedFilms.lambdaFree := by decide
    obtain ⟨out, hout, -, hmarkup, hentities⟩ :=
      exists_render_eq_of_guarded hparse hguarded hview
    refine ⟨tokens, rfl, hguarded, hview, out, hout [], ?_,
      fun x hx => hmarkup x hx (hplain x (List.mem_cons_of_mem _ hx)),
      hentities (hplain _ List.mem_cons_self)⟩
    have hrender : (Engine.empty.render .standard filmCard markedFilms).1.toOption =
        some "Films: &lt;b&gt;&quot;Tom &amp; Jerry&quot;&lt;&#x2F;b&gt; (Tom&#39;s cat,2); " := by
      decide +kernel
    have hsame : (Engine.empty.render .standard filmCard markedFilms).1 = .ok out := hout []
    rw [hsame] at hrender
    exact Option.some.inj hrender

end LiveTable.Template
