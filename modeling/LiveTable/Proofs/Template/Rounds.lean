import LiveTable.Proofs.Template.Stepwise

/-!
# Rounds of a section

A section renders its body in rounds: one for each item of an array and one for an object, each with
a view in front, and one in the same frame for any other value that passes the condition. An
inverted section renders its body if there are no rounds. The two tags decide by different
conditions, and between them the body of the first one is rendered; but what a name stands for in a
frame is remembered there, so they always decide alike.

* `Frame.lookups`, `Stepwise.exists_lookups`: all that rendering does to a frame is look up names;
* `Frame.lookup_lookups`: what a name stood for it stands for ever after;
* `rounds value`, `isVacant_eq`: the rounds of a section, of which an inverted section has none;
* `inRounds body rs`: the texts of the rounds, one after the other;
* `run_block`, `run_inverted`: what sections do with data that is no lambda;
* `renderNodes_append`: instructions one after the other;
* `render_section_inverted`: a section and its inverted section complement each other.
-/

namespace LiveTable.Template

/-! ### Frames that remember -/

namespace Frame

/-- The frame after names are looked up in it. -/
def lookups (f : Frame) (names : List String) : Frame :=
  names.foldl (fun f name => (f.lookup name).2) f

@[simp] theorem lookups_nil (f : Frame) : f.lookups [] = f := rfl

@[simp] theorem lookups_cons (f : Frame) (name : String) (names : List String) :
    f.lookups (name :: names) = (f.lookup name).2.lookups names := rfl

theorem lookups_append (f : Frame) (a b : List String) :
    f.lookups (a ++ b) = (f.lookups a).lookups b := List.foldl_append

/-- What the memo says stands. -/
theorem lookup_of_get? {f : Frame} {name : String} {value : Value}
    (h : f.memo.get? name = some value) : f.lookup name = (value, f) := by
  rw [lookup, h]

theorem get?_memo_lookup (f : Frame) (name : String) :
    (f.lookup name).2.memo.get? name = some (f.lookup name).1 := by
  cases h : f.memo.get? name with
  | some value => rw [lookup_of_get? h, h]
  | none => simp [lookup, h]

theorem get?_memo_lookups {f : Frame} {name : String} {value : Value}
    (h : f.memo.get? name = some value) (names : List String) :
    (f.lookups names).memo.get? name = some value := by
  induction names generalizing f with
  | nil => exact h
  | cons other names ih =>
    rw [lookups_cons]
    refine ih ?_
    cases hother : f.memo.get? other with
    | some _ => rwa [lookup_of_get? hother]
    | none =>
      have hne : other ≠ name := by
        rintro rfl
        rw [h] at hother
        cases hother
      simp [lookup, hother, hne, h]

/-- **What a name stood for it stands for ever after.** -/
theorem lookup_lookups (f : Frame) (name : String) (names : List String) :
    ((f.lookup name).2.lookups names).lookup name =
      ((f.lookup name).1, (f.lookup name).2.lookups names) :=
  lookup_of_get? (get?_memo_lookups (f.get?_memo_lookup name) names)

end Frame

/-- **All that rendering does to its frame is look up names.** -/
theorem Stepwise.exists_lookups {x : Render α} (h : Stepwise x) (s : Scene) :
    ∃ names, (x.run.run s).run.2.frame = s.frame.lookups names := by
  induction h generalizing s with
  | pure a => exact ⟨[], rfl⟩
  | tooDeep => exact ⟨[], rfl⟩
  | @bind α β x f _ _ ihx ihf =>
    obtain ⟨names, hnames⟩ := ihx s
    rw [Render.run_bind]
    rcases hrun : (x.run.run s).run with ⟨stop | a, next⟩
    · rw [hrun] at hnames
      exact ⟨names, hnames⟩
    · obtain ⟨more, hmore⟩ := ihf a next
      rw [hrun] at hnames
      refine ⟨names ++ more, ?_⟩
      rw [Frame.lookups_append, ← hnames]
      exact hmore
  | view => exact ⟨[], rfl⟩
  | lookup name => exact ⟨[name], rfl⟩
  | within view _ _ => exact ⟨[], rfl⟩
  | attempt _ ih =>
    obtain ⟨names, hnames⟩ := ih s
    refine ⟨names, hnames ▸ ?_⟩
    rw [Render.run_attempt]
    split <;> simp [*]
  | compile text => exact ⟨[], rfl⟩
  | loadPartial name => exact ⟨[], rfl⟩

/-! ### Rounds -/

/-- The rounds of a section over a value that is no lambda: the view that each one puts in front, or
none if it is in the same frame. -/
def rounds : Value → List (Option Value)
  | .array items => items.map some
  | .object entries => [some (.object entries)]
  | value => if value.truthy then [none] else []

/-- **An inverted section is rendered if the section has no rounds.** -/
theorem isVacant_eq (value : Value) : isVacant value = (rounds value).isEmpty := by
  cases value with
  | array items => cases items <;> rfl
  | object entries => rfl
  | _ =>
    rw [isVacant, rounds]
    split <;> simp [*]
    all_goals
      intros
      contradiction

/-- A computation in a round. -/
def Render.round (body : Render α) : Option Value → Render α
  | none => body
  | some view => Render.within view body

/-- The texts of the rounds, one after the other. -/
def inRounds (body : Render String) (rs : List (Option Value)) : Render String := do
  pure (String.join (← rs.mapM body.round))

theorem inRounds_singleton (body : Render String) (r : Option Value) :
    inRounds body [r] = body.round r := by
  simp [inRounds]

theorem Stepwise.inRounds {body : Render String} (h : Stepwise body) (rs : List (Option Value)) :
    Stepwise (inRounds body rs) := by
  refine .bind (.mapM (fun r => ?_) rs) fun _ => .pure _
  cases r with
  | none => exact h
  | some view => exact .within view h

/-- The scene after a name is looked up. -/
def Scene.seen (s : Scene) (name : String) : Scene := { s with frame := (s.frame.lookup name).2 }

section Sections

variable {enter : Program → Render String} {s : Scene} {name : String}

/-- **A section over data that is no lambda renders its body in rounds.** -/
theorem run_block (h : ∀ identity action, (s.frame.lookup name).1 ≠ .lambda identity action)
    (body : List Node) (text : Thunk String) :
    ((renderNode enter (.block name body text)).run.run s).run =
      ((inRounds (renderNodes enter body) (rounds (s.frame.lookup name).1)).run.run
        (s.seen name)).run := by
  rw [renderNode, Render.run_bind, Render.run_lookup]
  dsimp only
  rw [← Scene.seen]
  cases hvalue : (s.frame.lookup name).1 with
  | array items =>
    rw [rounds, inRounds, List.mapM_map]
    rfl
  | object entries =>
    rw [rounds, inRounds_singleton]
    rfl
  | lambda identity action => exact absurd hvalue (h identity action)
  | _ =>
    rw [rounds]
    · dsimp only
      split
      · rw [inRounds_singleton]
        rfl
      · rfl
    all_goals
      intros
      contradiction

/-- An inverted section over a value renders its body if the section has no rounds. -/
theorem run_inverted (body : List Node) :
    ((renderNode enter (.inverted name body)).run.run s).run =
      (if (rounds (s.frame.lookup name).1).isEmpty then
        ((renderNodes enter body).run.run (s.seen name)).run
      else (.ok "", s.seen name)) := by
  rw [renderNode, Render.run_bind, Render.run_lookup]
  dsimp only
  rw [← Scene.seen, isVacant_eq]
  split <;> rfl

theorem renderNodes_append (a b : List Node) :
    renderNodes enter (a ++ b) = (do
      let first ← renderNodes enter a
      let rest ← renderNodes enter b
      pure (first ++ rest)) := by
  induction a with
  | nil => simp only [List.nil_append, renderNodes, pure_bind, String.empty_append, bind_pure]
  | cons node a ih =>
    simp only [List.cons_append, renderNodes, ih, bind_assoc, pure_bind, String.append_assoc]

theorem renderNodes_singleton (node : Node) : renderNodes enter [node] = renderNode enter node := by
  simp [renderNodes]

/-- In a scene where a name was looked up it stands for the same, and looking it up again changes
nothing. -/
theorem lookup_seen {next : Scene} {names : List String}
    (h : next.frame = (s.seen name).frame.lookups names) :
    (next.frame.lookup name).1 = (s.frame.lookup name).1 ∧ next.seen name = next := by
  have hlookup : next.frame.lookup name = ((s.frame.lookup name).1, next.frame) := by
    rw [h]
    exact s.frame.lookup_lookups name names
  rw [Scene.seen, hlookup]
  exact ⟨rfl, rfl⟩

/-- A section, and behind it an inverted section of the same name. -/
theorem run_block_inverted
    (h : ∀ identity action, (s.frame.lookup name).1 ≠ .lambda identity action) {a : List Node}
    (ha : Stepwise (renderNodes enter a)) (text : Thunk String) (b : List Node) :
    ((renderNodes enter ([.block name a text] ++ [.inverted name b])).run.run s).run =
      if (rounds (s.frame.lookup name).1).isEmpty then
        ((renderNodes enter b).run.run (s.seen name)).run
      else ((inRounds (renderNodes enter a) (rounds (s.frame.lookup name).1)).run.run
        (s.seen name)).run := by
  rw [renderNodes_append, renderNodes_singleton, renderNodes_singleton, Render.run_bind,
    run_block h]
  cases hrounds : rounds (s.frame.lookup name).1 with
  | nil =>
    have hnone : ((inRounds (renderNodes enter a) []).run.run (s.seen name)).run =
      (.ok "", s.seen name) := rfl
    obtain ⟨hvalue, hseen⟩ := @lookup_seen s name (s.seen name) [] rfl
    rw [hnone]
    dsimp only
    rw [Render.run_bind, run_inverted, hvalue, hseen, hrounds, if_pos List.isEmpty_nil]
    rcases ((renderNodes enter b).run.run (s.seen name)).run with ⟨stop | rest, last⟩
    · rfl
    · exact congrArg (fun text => (Except.ok text, last)) String.empty_append
  | cons r rs =>
    obtain ⟨names, hnames⟩ := (ha.inRounds (r :: rs)).exists_lookups (s.seen name)
    rw [if_neg nofun]
    rcases hrun : ((inRounds (renderNodes enter a) (r :: rs)).run.run (s.seen name)).run with
      ⟨stop | first, next⟩
    · rfl
    · rw [hrun] at hnames
      obtain ⟨hvalue, hseen⟩ := lookup_seen hnames
      dsimp only
      rw [Render.run_bind, run_inverted, hvalue, hseen, hrounds, if_neg nofun]
      exact congrArg (fun text => (Except.ok text, next)) String.append_empty

end Sections

/-- **A section and its inverted section complement each other**, in any frame in which the name
stands for no lambda. If the section has no rounds, the body `B` of the inverted section is
rendered, once and in the same frame, and nothing else; otherwise the body `A` of the section is
rendered in its rounds, and nothing else. -/
theorem render_section_inverted (depth : Nat) (source : List Char) {name : String}
    (span span' : Span) (A B : List Token) (close close' : Nat) {s : Scene}
    (h : ∀ identity action, (s.frame.lookup name).1 ≠ .lambda identity action) :
    (rounds (s.frame.lookup name).1 = [] →
      isVacant (s.frame.lookup name).1 = true ∧
      (((Program.ofTokens source [.block false name span A close,
          .block true name span' B close']).render (depth + 1)).run.run s).run =
        (((Program.ofTokens source B).render (depth + 1)).run.run (s.seen name)).run) ∧
    (rounds (s.frame.lookup name).1 ≠ [] →
      isVacant (s.frame.lookup name).1 = false ∧
      (((Program.ofTokens source [.block false name span A close,
          .block true name span' B close']).render (depth + 1)).run.run s).run =
        ((inRounds ((Program.ofTokens source A).render (depth + 1))
          (rounds (s.frame.lookup name).1)).run.run (s.seen name)).run) := by
  have hrun := run_block_inverted h
    (stepwise_render (depth + 1) (Program.ofTokens source A) : Stepwise (renderNodes _ _))
    (Thunk.mk fun _ => String.ofList ((Text.slice? ⟨span.stop, close⟩ source).getD []))
    (Program.ofTokens source B)
  simp only [Program.ofTokens, Program.ofToken, List.append_nil]
  refine ⟨fun hnone => ⟨?_, ?_⟩, fun hsome => ⟨?_, ?_⟩⟩
  · rw [isVacant_eq, hnone]
    rfl
  · rw [if_pos (List.isEmpty_iff.2 hnone)] at hrun
    exact hrun
  · rw [isVacant_eq]
    exact List.isEmpty_eq_false_iff.2 hsome
  · rw [if_neg (mt List.isEmpty_iff.1 hsome)] at hrun
    exact hrun

/-- The cast of a film, or that there is none. -/
def castCard : List Char :=
  ("\x7b\x7b#film.cast\x7d\x7d\x7b\x7bname\x7d\x7d;\x7b\x7b/film.cast\x7d\x7d" ++
    "\x7b\x7b^film.cast\x7d\x7dnobody\x7b\x7b/film.cast\x7d\x7d").toList

/-- The name of one of the cast. -/
def castName : List Token := [.leaf (.escaped "name") ⟨14, 22⟩, .leaf (.text ";") ⟨22, 23⟩]

/-- What is said if there is no cast. -/
def castNobody : List Token := [.leaf (.text "nobody") ⟨51, 57⟩]

/-- The tokens of the card. -/
def castCardTokens : List Token :=
  [.block false "film.cast" ⟨0, 14⟩ castName 23, .block true "film.cast" ⟨37, 51⟩ castNobody 57]

/-- A frame in which a film with the given cast stands around a view without one. -/
def castScene (cast : List Value) : Scene :=
  ⟨.empty, (Frame.root (.object [("film", .object [("cast", .array cast)])])).push (.bool true)⟩

/-- A cast of two. -/
def twoRoles : List Value := [.object [("name", .string "lead")], .object [("name", .string "extra")]]

/-- Two roles, and nobody. -/
theorem render_section_inverted_castCard :
    parse .standard castCard = .ok castCardTokens ∧
    (((Program.ofTokens castCard castCardTokens).render 1).run.run
      (castScene twoRoles)).run.1.toOption = some "lead;extra;" ∧
    (((Program.ofTokens castCard castCardTokens).render 1).run.run
      (castScene [])).run.1.toOption = some "nobody" := by
  have hcast : ∀ cast, ((castScene cast).frame.lookup "film.cast").1 = .array cast := fun _ => rfl
  have hlambda : ∀ cast identity action,
      ((castScene cast).frame.lookup "film.cast").1 ≠ .lambda identity action := by
    intro cast identity action h
    rw [hcast] at h
    cases h
  have hcard := fun cast => render_section_inverted 0 castCard ⟨0, 14⟩ ⟨37, 51⟩ castName castNobody
    23 57 (hlambda cast)
  refine ⟨by with_unfolding_all rfl, ?_, ?_⟩
  · have hnames : rounds ((castScene twoRoles).frame.lookup "film.cast").1 ≠ [] := by
      rw [hcast]
      exact List.cons_ne_nil _ _
    rw [castCardTokens, ((hcard twoRoles).2 hnames).2]
    decide +kernel
  · have hnone : rounds ((castScene []).frame.lookup "film.cast").1 = [] := by
      rw [hcast]
      rfl
    rw [castCardTokens, ((hcard []).1 hnone).2]
    decide +kernel

end LiveTable.Template
