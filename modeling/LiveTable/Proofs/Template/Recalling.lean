import LiveTable.Proofs.Template.Lookups

/-!
# What a frame remembers

A frame remembers what was looked up in it, and what it remembers does not show: every answer is
what the name stands for in the views of the chain, however many names were looked up before, in
whatever frames, by the owner of the chain, by a lambda or by a template rendered in it.

* `Leads view path value`, `InView view name value`: what a path and a name lead to in one view;
* `StandsFor views name value`: what a name stands for in a chain of views;
* `standsFor_iff`: it stands for one value, which a lookup without a memo gives;
* `Looks x s lookups`: the lookups that a computation makes in a scene, with their answers;
* `Looks.sound`: in a truthful frame the answers are right, and the frame stays truthful;
* `Stepwise.forgetful`: what a truthful frame remembers makes no difference to a computation;
* `Chain frames lookups`: the frames of a chain as it comes about, and all that was looked up in it;
* `transparent_of_chain`: the answers are right, and what was looked up before does not show.
-/

namespace LiveTable.Template

/-! ### What a name stands for -/

/-- The path leads from the view to the value, part by part. A value that fails the condition of a
section ends the path early. -/
inductive Leads : Value → List String → Value → Prop where
  | arrived (view : Value) : Leads view [] view
  | stopped {view : Value} (h : view.truthy = false) (part : String) (path : List String) :
      Leads view (part :: path) view
  | onward {view value : Value} {part : String} {path : List String} (h : view.truthy = true)
      (hrest : Leads (view.get part) path value) : Leads view (part :: path) value

/-- What a name leads to in one view. A name with a dot, other than in front, is a path of parts
between the dots; any other name is a property. -/
inductive InView (view : Value) (name : String) : Value → Prop where
  | property (h : '.' ∉ name.toList ∨ name.toList.head? = some '.') :
      InView view name (view.get name)
  | path {value : Value} {path : List String} (hdot : '.' ∈ name.toList)
      (hhead : name.toList.head? ≠ some '.') (hfree : ∀ part ∈ path, '.' ∉ part.toList)
      (hname : name.toList = ['.'].intercalate (path.map String.toList))
      (hvalue : Leads view path value) : InView view name value

/-- What a name stands for in a chain of views, the innermost first: a dot alone is the innermost
view, and any other name is the first thing that it leads to and that is not null, if there is
one. -/
inductive StandsFor : List Value → String → Value → Prop where
  | dot (view : Value) (outer : List Value) : StandsFor (view :: outer) "." view
  | found {inner outer : List Value} {view value : Value} {name : String} (hname : name ≠ ".")
      (hinner : ∀ v ∈ inner, InView v name .null) (hvalue : InView view name value)
      (hnull : value ≠ .null) : StandsFor (inner ++ view :: outer) name value
  | missing {views : List Value} {name : String} (hname : name ≠ ".")
      (hviews : ∀ v ∈ views, InView v name .null) : StandsFor views name .null

section StandsFor

variable {view value : Value} {views : List Value} {name : String}

theorem leads_iff {path : List String} : Leads view path value ↔ value = walkPath view path := by
  constructor
  · intro h
    induction h with
    | arrived view => rfl
    | stopped h part path => rw [walkPath, h, if_neg Bool.false_ne_true]
    | onward h _ ih => rw [walkPath, if_pos h, ih]
  · rintro rfl
    induction path generalizing view with
    | nil => exact .arrived view
    | cons part path ih =>
      rw [walkPath]
      split
      · next h => exact .onward h ih
      · next h => exact .stopped (eq_false_of_ne_true h) part path

theorem isPath_iff : isPath name = true ↔ '.' ∈ name.toList ∧ name.toList.head? ≠ some '.' := by
  simp [isPath]

/-- A path has more than one part. -/
theorem walk_splitAt (h : isPath name = true) (view : Value) :
    walk view (Text.splitAt '.' name) = walkPath view (Text.splitAt '.' name) := by
  obtain ⟨-, hfree, hname⟩ := Text.splitAt_eq_iff.1 (Eq.refl (Text.splitAt '.' name))
  match hparts : Text.splitAt '.' name with
  | [] => rfl
  | [part] =>
    -- then the dot would be in that part
    rw [hparts] at hfree hname
    have hmem := (isPath_iff.1 h).1
    rw [hname] at hmem
    exact absurd (by simpa using hmem) (hfree part (List.mem_singleton_self part))
  | _ :: _ :: _ => rfl

theorem inView_iff : InView view name value ↔ value = walk view (parts name) := by
  by_cases hpath : isPath name = true
  · obtain ⟨hdot, hhead⟩ := isPath_iff.1 hpath
    rw [parts, if_pos hpath, walk_splitAt hpath, ← leads_iff]
    constructor
    · intro h
      cases h with
      | property h => exact (h.elim (· hdot) hhead).elim
      | @path value path _ _ hfree hname hvalue =>
        have hne : path ≠ [] := by
          rintro rfl
          rw [hname] at hdot
          simp at hdot
        rwa [Text.splitAt_eq_iff.2 ⟨hne, hfree, hname⟩]
    · intro h
      obtain ⟨-, hfree, hname⟩ := Text.splitAt_eq_iff.1 (Eq.refl (Text.splitAt '.' name))
      exact .path hdot hhead hfree hname h
  · have hproperty : '.' ∉ name.toList ∨ name.toList.head? = some '.' := by
      rw [isPath_iff, not_and_or, not_not] at hpath
      exact hpath
    rw [parts, if_neg hpath, walk]
    constructor
    · intro h
      cases h with
      | property => rfl
      | path hdot hhead => exact (hpath (isPath_iff.2 ⟨hdot, hhead⟩)).elim
    · rintro rfl
      exact .property hproperty

theorem isNull_iff : value.isNull = true ↔ value = .null := by
  cases value <;> simp [Value.isNull]

/-- The views in which a name leads to nothing are passed over. -/
theorem walkChain_append {path : List String} {inner outer : List Value}
    (h : ∀ v ∈ inner, walk v path = .null) :
    walkChain path (inner ++ outer) = walkChain path outer := by
  induction inner with
  | nil => rfl
  | cons v inner ih =>
    obtain ⟨hv, hinner⟩ := List.forall_mem_cons.1 h
    rw [List.cons_append, walkChain, hv]
    exact ih hinner

/-- A chain gives null, or the first result that is not null. -/
theorem walkChain_cases (path : List String) (views : List Value) :
    ((∀ v ∈ views, walk v path = .null) ∧ walkChain path views = .null) ∨
      ∃ inner view outer, views = inner ++ view :: outer ∧ (∀ v ∈ inner, walk v path = .null) ∧
        walk view path ≠ .null ∧ walkChain path views = walk view path := by
  induction views with
  | nil => exact .inl ⟨nofun, rfl⟩
  | cons view views ih =>
    by_cases hnull : walk view path = .null
    · have hskip : walkChain path (view :: views) = walkChain path views :=
        @walkChain_append path [view] views (by simpa using hnull)
      rw [hskip]
      rcases ih with ⟨hviews, hchain⟩ | ⟨inner, found, outer, rfl, hinner, hfound, hchain⟩
      · exact .inl ⟨List.forall_mem_cons.2 ⟨hnull, hviews⟩, hchain⟩
      · exact .inr ⟨view :: inner, found, outer, rfl, List.forall_mem_cons.2 ⟨hnull, hinner⟩,
          hfound, hchain⟩
    · refine .inr ⟨[], view, views, rfl, nofun, hnull, ?_⟩
      rw [walkChain]
      exact if_neg (mt isNull_iff.1 hnull)

/-- **A name stands for one value**: the one that a frame with these views resolves it to. -/
theorem standsFor_iff {f : Frame} : StandsFor f.views name value ↔ value = f.resolve name := by
  rw [Frame.resolve]
  constructor
  · intro h
    generalize hviews : f.views = views at h
    cases h with
    | dot view outer =>
      rw [if_pos rfl]
      exact (List.cons.inj hviews).1.symm
    | found hname hinner hvalue hnull =>
      rw [if_neg hname, walkChain_append fun v hv => (inView_iff.1 (hinner v hv)).symm, walkChain,
        ← inView_iff.1 hvalue]
      exact (if_neg (mt isNull_iff.1 hnull)).symm
    | missing hname hall =>
      have hskip := @walkChain_append (parts name) views [] fun v hv =>
        (inView_iff.1 (hall v hv)).symm
      rw [List.append_nil] at hskip
      rw [if_neg hname, hskip, walkChain]
  · rintro rfl
    split
    · next hdot =>
      rw [hdot]
      exact .dot f.view f.outer
    · next hname =>
      rcases walkChain_cases (parts name) f.views with
        ⟨hviews, hchain⟩ | ⟨inner, view, outer, hviews, hinner, hview, hchain⟩
      · rw [hchain]
        exact .missing hname fun v hv => inView_iff.2 (hviews v hv).symm
      · rw [hchain, hviews]
        exact .found hname (fun v hv => inView_iff.2 (hinner v hv).symm) (inView_iff.2 rfl) hview

end StandsFor

/-! ### Lookups in a scene -/

/-- A lookup: the views of the frame that was asked, the innermost first, the name and the
answer. -/
structure Lookup where
  views : List Value
  name : String
  answer : Value

/-- The answer is what the name stands for. -/
def Lookup.Right (l : Lookup) : Prop := StandsFor l.views l.name l.answer

/-- The lookup of a name in a frame, with the answer that the frame gives. -/
def Frame.answered (f : Frame) (name : String) : Lookup := ⟨f.views, name, (f.lookup name).1⟩

theorem Frame.Truthful.right {f : Frame} (h : f.Truthful) (name : String) :
    (f.answered name).Right :=
  standsFor_iff.2 (h.lookup_fst name)

/-- The lookups that a computation makes in a scene, in order. -/
inductive Looks : {α : Type} → Render α → Scene → List Lookup → Prop where
  | pure {α : Type} (a : α) (s : Scene) : Looks (pure a : Render α) s []
  | tooDeep {α : Type} (s : Scene) : Looks (throw .tooDeep : Render α) s []
  | bind {α β : Type} {x : Render α} {f : α → Render β} {s next : Scene} {a : α}
      {first rest : List Lookup} : Looks x s first → (x.run.run s).run = (.ok a, next) →
      Looks (f a) next rest → Looks (x >>= f) s (first ++ rest)
  | bindStop {α β : Type} {x : Render α} {f : α → Render β} {s next : Scene} {stop : Stop}
      {first : List Lookup} : Looks x s first → (x.run.run s).run = (.error stop, next) →
      Looks (x >>= f) s first
  | view (s : Scene) : Looks (do pure (← get).frame.view) s []
  | lookup (name : String) (s : Scene) : Looks (Render.lookup name) s [s.frame.answered name]
  | within {α : Type} (view : Value) {body : Render α} {s : Scene} {lookups : List Lookup} :
      Looks body { s with frame := s.frame.push view } lookups →
      Looks (Render.within view body) s lookups
  | attempt {α : Type} {body : Render α} {s : Scene} {lookups : List Lookup} :
      Looks body s lookups → Looks (Render.attempt body) s lookups
  | compile (text : String) (s : Scene) :
      Looks (Render.onEngine (·.compile templateName .standard text)) s []
  | loadPartial (name : String) (s : Scene) : Looks (Render.onEngine (·.loadPartial name)) s []

/-- **Everything that is made of the steps of rendering makes lookups.** -/
theorem Stepwise.exists_looks {x : Render α} (h : Stepwise x) (s : Scene) :
    ∃ lookups, Looks x s lookups := by
  induction h generalizing s with
  | pure a => exact ⟨_, .pure a s⟩
  | tooDeep => exact ⟨_, .tooDeep s⟩
  | @bind α β x f _ _ ihx ihf =>
    obtain ⟨first, hfirst⟩ := ihx s
    rcases hrun : (x.run.run s).run with ⟨stop | a, next⟩
    · exact ⟨first, .bindStop hfirst hrun⟩
    · obtain ⟨rest, hrest⟩ := ihf a next
      exact ⟨first ++ rest, .bind hfirst hrun hrest⟩
  | view => exact ⟨_, .view s⟩
  | lookup name => exact ⟨_, .lookup name s⟩
  | within view _ ih =>
    obtain ⟨lookups, hlookups⟩ := ih _
    exact ⟨lookups, .within view hlookups⟩
  | attempt _ ih =>
    obtain ⟨lookups, hlookups⟩ := ih s
    exact ⟨lookups, .attempt hlookups⟩
  | compile text => exact ⟨_, .compile text s⟩
  | loadPartial name => exact ⟨_, .loadPartial name s⟩

/-- **In a truthful frame every answer is right**, in the frame itself and in those with views in
front of it, and the frame stays truthful. -/
theorem Looks.sound {x : Render α} {s : Scene} {lookups : List Lookup} (h : Looks x s lookups)
    (hs : s.frame.Truthful) :
    (∀ l ∈ lookups, l.Right ∧ s.frame.views <:+ l.views) ∧
      ((x.run.run s).run.2).frame.Truthful ∧
      ((x.run.run s).run.2).frame.views = s.frame.views := by
  induction h with
  | pure | tooDeep | view | compile | loadPartial => exact ⟨nofun, hs, rfl⟩
  | bind _ hrun _ ihx ihf =>
    obtain ⟨hfirst, hmid, hviews⟩ := ihx hs
    rw [hrun] at hmid hviews
    obtain ⟨hrest, hafter, hviews'⟩ := ihf hmid
    rw [Render.run_bind, hrun]
    rw [hviews] at hrest hviews'
    exact ⟨List.forall_mem_append.2 ⟨hfirst, hrest⟩, hafter, hviews'⟩
  | bindStop _ hrun ihx =>
    obtain ⟨hfirst, hmid, hviews⟩ := ihx hs
    rw [hrun] at hmid hviews
    rw [Render.run_bind, hrun]
    exact ⟨hfirst, hmid, hviews⟩
  | lookup name s =>
    refine ⟨?_, hs.lookup name, s.frame.views_lookup name⟩
    rw [List.forall_mem_singleton]
    exact ⟨hs.right name, List.suffix_rfl⟩
  | within view _ ih =>
    -- the frame of the body starts with an empty memo, and the frame around it comes back
    obtain ⟨hlookups, -, -⟩ := ih nofun
    refine ⟨fun l hl => ⟨(hlookups l hl).1, ?_⟩, hs, rfl⟩
    exact (List.suffix_cons view _).trans (hlookups l hl).2
  | attempt _ ih =>
    rw [Render.run_attempt]
    obtain ⟨hlookups, hafter⟩ := ih hs
    refine ⟨hlookups, ?_⟩
    split <;> simpa [*] using hafter

/-! ### Frames that forget -/

namespace Frame

/-- The frame with nothing looked up in it so far. -/
def forget (f : Frame) : Frame := { f with memo := [] }

/-- Truthful frames with the same views. -/
structure Twins (f g : Frame) : Prop where
  truthful : f.Truthful
  truthful' : g.Truthful
  views : f.views = g.views

variable {f g : Frame}

theorem Truthful.twins_forget (h : f.Truthful) : f.Twins f.forget := ⟨h, nofun, rfl⟩

theorem Twins.lookup (h : f.Twins g) (name : String) :
    (f.lookup name).1 = (g.lookup name).1 ∧ (f.lookup name).2.Twins (g.lookup name).2 := by
  refine ⟨?_, h.truthful.lookup name, h.truthful'.lookup name, ?_⟩
  · rw [h.truthful.lookup_fst, h.truthful'.lookup_fst, resolve_congr h.views]
  · rw [views_lookup, views_lookup, h.views]

theorem Twins.push (h : f.Twins g) (view : Value) : f.push view = g.push view :=
  congrArg (fun outer => (⟨view, outer, []⟩ : Frame)) h.views

end Frame

/-- **What truthful frames remember makes no difference**: in frames with the same views a
computation has the same result and does the same to the engine. -/
theorem Stepwise.forgetful {x : Render α} (h : Stepwise x) {f g : Frame} (hfg : f.Twins g)
    (e : Engine) :
    ∃ result e' f' g', (x.run.run ⟨e, f⟩).run = (result, ⟨e', f'⟩) ∧
      (x.run.run ⟨e, g⟩).run = (result, ⟨e', g'⟩) ∧ f'.Twins g' := by
  induction h generalizing f g e with
  | pure | tooDeep | compile | loadPartial => exact ⟨_, _, _, _, rfl, rfl, hfg⟩
  | @bind α β x k _ _ ihx ihk =>
    obtain ⟨result, e', f', g', hrun, hrun', hfg'⟩ := ihx hfg e
    rw [Render.run_bind, Render.run_bind, hrun, hrun']
    cases result with
    | ok a => exact ihk a hfg' e'
    | error stop => exact ⟨_, _, _, _, rfl, rfl, hfg'⟩
  | view =>
    have hview : f.view = g.view := (List.cons.inj hfg.views).1
    exact ⟨.ok f.view, e, f, g, rfl, by rw [hview]; rfl, hfg⟩
  | lookup name =>
    obtain ⟨hvalue, hfg'⟩ := hfg.lookup name
    rw [Render.run_lookup, Render.run_lookup]
    exact ⟨_, _, _, _, rfl, by rw [hvalue], hfg'⟩
  | within view _ ih =>
    rw [Render.run_within, Render.run_within]
    dsimp only
    rw [hfg.push view]
    exact ⟨_, _, _, _, rfl, rfl, hfg⟩
  | attempt _ ih =>
    obtain ⟨result, e', f', g', hrun, hrun', hfg'⟩ := ih hfg e
    rw [Render.run_attempt, Render.run_attempt, hrun, hrun']
    rcases result with (error | _) | a <;> exact ⟨_, _, _, _, rfl, rfl, hfg'⟩

/-! ### Chains -/

/-- The frames of a chain as it comes about, and all that was looked up in it so far. A view is put
in front of any frame; a name is looked up in any frame, by itself, for a lambda that is called
there, or for a template that is rendered there. -/
inductive Chain : List Frame → List Lookup → Prop where
  | root (view : Value) : Chain [.root view] []
  | push {frames : List Frame} {lookups : List Lookup} (h : Chain frames lookups) {f : Frame}
      (hf : f ∈ frames) (view : Value) : Chain (frames ++ [f.push view]) lookups
  | run {frames : List Frame} {lookups more : List Lookup} (h : Chain frames lookups) {k : Nat}
      {f : Frame} (hk : frames[k]? = some f) {α : Type} {x : Render α} (hx : Stepwise x)
      (e : Engine) (hmore : Looks x ⟨e, f⟩ more) :
      Chain (frames.set k ((x.run.run ⟨e, f⟩).run.2).frame) (lookups ++ more)

/-- Memos do not show: not in what was looked up, and not in what will be. -/
structure Transparent (frames : List Frame) (lookups : List Lookup) : Prop where
  right : ∀ l ∈ lookups, l.Right
  lookup_iff : ∀ f ∈ frames, ∀ name value,
    StandsFor f.views name value ↔ (f.lookup name).1 = value
  exists_looks : ∀ f ∈ frames, ∀ {α : Type} {x : Render α}, Stepwise x → ∀ e,
    ∃ more, Looks x ⟨e, f⟩ more ∧ ∀ l ∈ more, l.Right ∧ f.views <:+ l.views
  /-- A computation ends as it does in a frame without a memo. -/
  forget : ∀ f ∈ frames, ∀ {α : Type} {x : Render α}, Stepwise x → ∀ e,
    (x.run.run ⟨e, f⟩).run.1 = (x.run.run ⟨e, f.forget⟩).run.1 ∧
      (x.run.run ⟨e, f⟩).run.2.engine = (x.run.run ⟨e, f.forget⟩).run.2.engine

/-- **The frames of a chain are truthful**, and the answers that they gave are right. -/
theorem Chain.truthful {frames : List Frame} {lookups : List Lookup} (h : Chain frames lookups) :
    (∀ f ∈ frames, f.Truthful) ∧ ∀ l ∈ lookups, l.Right := by
  induction h with
  | root view =>
    rw [List.forall_mem_singleton]
    exact ⟨nofun, nofun⟩
  | push _ _ view ih =>
    rw [List.forall_mem_append, List.forall_mem_singleton]
    exact ⟨⟨ih.1, nofun⟩, ih.2⟩
  | run _ hk _ e hmore ih =>
    obtain ⟨hframes, hlookups⟩ := ih
    obtain ⟨hright, hafter, -⟩ := hmore.sound (hframes _ (List.mem_of_getElem? hk))
    refine ⟨fun f hf => ?_, List.forall_mem_append.2 ⟨hlookups, fun l hl => (hright l hl).1⟩⟩
    rcases List.mem_or_eq_of_mem_set hf with hold | rfl
    · exact hframes f hold
    · exact hafter

/-- **The memos of a chain are transparent**, whatever was looked up in whichever of its frames: by
itself, by lambdas and by templates rendered there. -/
theorem transparent_of_chain {frames : List Frame} {lookups : List Lookup}
    (h : Chain frames lookups) : Transparent frames lookups where
  right := h.truthful.2
  lookup_iff f hf name value := by
    rw [standsFor_iff, (h.truthful.1 f hf).lookup_fst, eq_comm]
  exists_looks f hf α x hx e := by
    obtain ⟨more, hmore⟩ := hx.exists_looks ⟨e, f⟩
    exact ⟨more, hmore, (hmore.sound (h.truthful.1 f hf)).1⟩
  forget f hf α x hx e := by
    obtain ⟨result, e', f', g', hrun, hrun', -⟩ := hx.forgetful (h.truthful.1 f hf).twins_forget e
    rw [hrun, hrun']
    exact ⟨rfl, rfl⟩

/-- A film whose lead is unknown, with a lambda that looks up what nobody has. -/
def filmEntry : Value :=
  .object [("crew", .object [("lead", .bool false)]), ("owner", .lambda 0 (.lookup "nobody"))]

/-- A row in front of the film. -/
def castEntry : Value := .object [("crew", .string "")]

/-- In the row the path ends at the empty text, and in the film at the lead; the lambda asks again
for what leads to nothing. -/
theorem transparent_castEntry :
    ∃ frames lookups, Chain frames lookups ∧
      lookups = [⟨[castEntry, filmEntry], "nobody", .null⟩,
        ⟨[castEntry, filmEntry], "crew.lead.name", .string ""⟩,
        ⟨[filmEntry], "crew.lead.name", .bool false⟩,
        ⟨[castEntry, filmEntry], "owner", .lambda 0 (.lookup "nobody")⟩,
        ⟨[castEntry, filmEntry], "nobody", .null⟩] ∧
      Transparent frames lookups := by
  have hframes := Chain.push (.root filmEntry) (List.mem_singleton_self _) castEntry
  have hnobody := Chain.run hframes (k := 1) rfl (.lookup "nobody") .empty (.lookup "nobody" _)
  have hrow := Chain.run hnobody (k := 1) rfl (.lookup "crew.lead.name") .empty
    (.lookup "crew.lead.name" _)
  have hfilm := Chain.run hrow (k := 0) rfl (.lookup "crew.lead.name") .empty
    (.lookup "crew.lead.name" _)
  have howner := Chain.run hfilm (k := 1) rfl
    (stepwise_interpolate (stepwise_render 1) "owner") .empty
    (.bind (.lookup "owner" _) rfl (.lookup "nobody" _))
  exact ⟨_, _, howner, rfl, transparent_of_chain howner⟩

end LiveTable.Template
