import LiveTable.Proofs.Template.Coherence

/-!
# Asking for partials

A template refers to partials by their names. As long as a partial is not known, every reference to
it asks the resolver in place; once a template is registered under its name, whoever registered it,
nobody is asked for it again. What counts is what the engine knows at the moment of the reference:
on the way rendering may register partials that it then refers to, in loops, in lambdas and in the
partials themselves.

* `Request`, `Engine.account`: what is asked of an engine, and the calls that this comes down to;
* `Requests x s requests`: the requests that a computation makes in a scene;
* `Engine.Serves e requests last`: what is done with an engine that is never cleared;
* `Known name deeds`: calls have registered a template under the name;
* `supplied deeds`, `askedIn deeds`: the resolver put in place last, and the names asked for;
* `Engine.isSome_get?_after`: the partials that an engine has are the known ones;
* `AskedOnce requests last`: who is asked when;
* `askedOnce_of_serves`: so it is, whatever is done with an engine.
-/

namespace LiveTable.Template

/-! ### Requests -/

/-- What is asked of an engine. -/
inductive Request where
  | compile (name : String) (d : Delimiters) (text : String)
  | register (name : String) (d : Delimiters) (text : String)
  | supply (r : Resolver)
  /-- A template refers to a partial. -/
  | refer (name : String)

namespace Engine

/-- The calls that a request comes down to. -/
def serving (e : Engine) : Request → List Deed
  | .compile name d text => [.compile name d text]
  | .register name d text => [.register name d text]
  | .supply r => [.supply r]
  | .refer name => e.fetching name

/-- The calls that requests come down to, one after the other. -/
def account (e : Engine) : List Request → List Deed
  | [] => []
  | request :: requests =>
    e.serving request ++ (e.after (e.serving request)).account requests

theorem account_append (e : Engine) (a b : List Request) :
    e.account (a ++ b) = e.account a ++ (e.after (e.account a)).account b := by
  induction a generalizing e with
  | nil => rfl
  | cons request a ih =>
    rw [List.cons_append, account, account, ih, List.append_assoc, after_append]

theorem account_singleton (e : Engine) (request : Request) :
    e.account [request] = e.serving request := by
  rw [account, account, List.append_nil]

/-- Requests never clear an engine. -/
theorem clear_notMem_account (e : Engine) (requests : List Request) :
    .clear ∉ e.account requests := by
  have hserving : ∀ (e : Engine) (request : Request), .clear ∉ e.serving request := by
    intro e request
    cases request with
    | refer name =>
      simp only [serving, fetching]
      split
      · simp
      · simp
      · split <;> simp
    | _ => simp [serving]
  induction requests generalizing e with
  | nil => exact List.not_mem_nil
  | cons request requests ih =>
    rw [account, List.mem_append, not_or]
    exact ⟨hserving e request, ih _⟩

end Engine

/-- The requests that a computation makes in a scene, in order. -/
inductive Requests : {α : Type} → Render α → Scene → List Request → Prop where
  | pure {α : Type} (a : α) (s : Scene) : Requests (pure a : Render α) s []
  | tooDeep {α : Type} (s : Scene) : Requests (throw .tooDeep : Render α) s []
  | bind {α β : Type} {x : Render α} {f : α → Render β} {s next : Scene} {a : α}
      {first rest : List Request} : Requests x s first → (x.run.run s).run = (.ok a, next) →
      Requests (f a) next rest → Requests (x >>= f) s (first ++ rest)
  | bindStop {α β : Type} {x : Render α} {f : α → Render β} {s next : Scene} {stop : Stop}
      {first : List Request} : Requests x s first → (x.run.run s).run = (.error stop, next) →
      Requests (x >>= f) s first
  | view (s : Scene) : Requests (do pure (← get).frame.view) s []
  | lookup (name : String) (s : Scene) : Requests (Render.lookup name) s []
  | within {α : Type} (view : Value) {body : Render α} {s : Scene} {requests : List Request} :
      Requests body { s with frame := s.frame.push view } requests →
      Requests (Render.within view body) s requests
  | attempt {α : Type} {body : Render α} {s : Scene} {requests : List Request} :
      Requests body s requests → Requests (Render.attempt body) s requests
  | compile (text : String) (s : Scene) :
      Requests (Render.onEngine (·.compile templateName .standard text)) s
        [.compile templateName .standard text]
  | refer (name : String) (s : Scene) :
      Requests (Render.onEngine (·.loadPartial name)) s [.refer name]

/-- The calls of a computation are those that its requests come down to. -/
theorem Requests.does {x : Render α} {s : Scene} {requests : List Request}
    (h : Requests x s requests) : Does x s (s.engine.account requests) := by
  induction h with
  | pure a s => exact .pure a s
  | tooDeep s => exact .tooDeep s
  | @bind α β x f s next a first rest _ hrun _ ihx ihf =>
    have hnext : next.engine = s.engine.after (s.engine.account first) := by
      rw [← ihx.engine_eq, hrun]
    rw [Engine.account_append, ← hnext]
    exact .bind ihx hrun ihf
  | bindStop _ hrun ihx => exact .bindStop ihx hrun
  | view s => exact .view s
  | lookup name s => exact .lookup name s
  | within view _ ih => exact .within view ih
  | attempt _ ih => exact .attempt ih
  | compile text s => exact .compile text s
  | refer name s =>
    rw [Engine.account_singleton]
    exact .loadPartial name s

/-- All calls of a computation come from requests that it makes. -/
theorem Does.exists_requests {x : Render α} {s : Scene} {deeds : List Deed} (h : Does x s deeds) :
    ∃ requests, Requests x s requests ∧ s.engine.account requests = deeds := by
  induction h with
  | pure a s => exact ⟨_, .pure a s, rfl⟩
  | tooDeep s => exact ⟨_, .tooDeep s, rfl⟩
  | @bind α β x f s next a first rest hfirst hrun _ ihx ihf =>
    obtain ⟨requests, hrequests, rfl⟩ := ihx
    obtain ⟨more, hmore, rfl⟩ := ihf
    have hnext : next.engine = s.engine.after (s.engine.account requests) := by
      rw [← hfirst.engine_eq, hrun]
    refine ⟨requests ++ more, .bind hrequests hrun hmore, ?_⟩
    rw [Engine.account_append, ← hnext]
  | bindStop _ hrun ihx =>
    obtain ⟨requests, hrequests, rfl⟩ := ihx
    exact ⟨requests, .bindStop hrequests hrun, rfl⟩
  | view s => exact ⟨_, .view s, rfl⟩
  | lookup name s => exact ⟨_, .lookup name s, rfl⟩
  | within view _ ih =>
    obtain ⟨requests, hrequests, rfl⟩ := ih
    exact ⟨requests, .within view hrequests, rfl⟩
  | attempt _ ih =>
    obtain ⟨requests, hrequests, rfl⟩ := ih
    exact ⟨requests, .attempt hrequests, rfl⟩
  | compile text s => exact ⟨_, .compile text s, rfl⟩
  | loadPartial name s => exact ⟨_, .refer name s, s.engine.account_singleton _⟩

theorem exists_requests (depth : Nat) (program : Program) (s : Scene) :
    ∃ requests, Requests (program.render depth) s requests := by
  obtain ⟨deeds, hdeeds⟩ := (stepwise_render depth program).exists_does s
  obtain ⟨requests, hrequests, -⟩ := hdeeds.exists_requests
  exact ⟨requests, hrequests⟩

/-! ### What is done with an engine -/

namespace Engine

/-- Without ever being cleared the engine serves the requests, and is `last` then. Programs are
rendered in any frame and to any depth. -/
inductive Serves : Engine → List Request → Engine → Prop where
  | done (e : Engine) : Serves e [] e
  | compile {e last : Engine} {requests : List Request} (name : String) (d : Delimiters)
      (text : String) : Serves (e.compile name d text).2 requests last →
      Serves e (.compile name d text :: requests) last
  | compilePartial {e last : Engine} {requests : List Request} (name : String) (d : Delimiters)
      (text : String) : Serves (e.compilePartial name d text).2 requests last →
      Serves e (.register name d text :: requests) last
  | setResolver {e last : Engine} {requests : List Request} (r : Resolver) :
      Serves { e with resolver := some r } requests last →
      Serves e (.supply r :: requests) last
  | render {e last : Engine} {first rest : List Request} {depth : Nat} {program : Program}
      {frame : Frame} : Requests (program.render depth) ⟨e, frame⟩ first →
      Serves ((program.render depth).run.run ⟨e, frame⟩).run.2.engine rest last →
      Serves e (first ++ rest) last

/-- What the requests come down to is all that is done to the engine. -/
theorem Serves.engine_eq {e last : Engine} {requests : List Request}
    (h : e.Serves requests last) : last = e.after (e.account requests) := by
  induction h with
  | done e => rfl
  | compile name d text _ ih => exact ih
  | compilePartial name d text _ ih => exact ih
  | setResolver r _ ih => exact ih
  | render hfirst _ ih =>
    rw [ih, hfirst.does.engine_eq, account_append, after_append]

theorem Serves.append {e between last : Engine} {first rest : List Request}
    (h : e.Serves first between) (hrest : between.Serves rest last) :
    e.Serves (first ++ rest) last := by
  induction h with
  | done e => exact hrest
  | compile name d text _ ih => exact .compile name d text (ih hrest)
  | compilePartial name d text _ ih => exact .compilePartial name d text (ih hrest)
  | setResolver r _ ih => exact .setResolver r (ih hrest)
  | render hfirst _ ih =>
    rw [List.append_assoc]
    exact .render hfirst (ih hrest)

/-- The calls come from requests that the engine serves. -/
def Requested (e : Engine) (deeds : List Deed) : Prop :=
  ∃ requests, e.Serves requests (e.after deeds) ∧ e.account requests = deeds

namespace Requested

variable {e : Engine}

theorem nil (e : Engine) : e.Requested [] := ⟨[], .done e, rfl⟩

theorem append {first rest : List Deed} (h : e.Requested first)
    (hrest : (e.after first).Requested rest) : e.Requested (first ++ rest) := by
  obtain ⟨requests, hserves, rfl⟩ := h
  obtain ⟨more, hmore, rfl⟩ := hrest
  refine ⟨requests ++ more, ?_, e.account_append requests more⟩
  rw [after_append]
  exact hserves.append hmore

theorem compile (e : Engine) (name : String) (d : Delimiters) (text : String) :
    e.Requested [.compile name d text] :=
  ⟨[.compile name d text], .compile name d text (.done _), rfl⟩

theorem register (e : Engine) (name : String) (d : Delimiters) (text : String) :
    e.Requested [.register name d text] :=
  ⟨[.register name d text], .compilePartial name d text (.done _), rfl⟩

theorem supply (e : Engine) (r : Resolver) : e.Requested [.supply r] :=
  ⟨[.supply r], .setResolver r (.done _), rfl⟩

theorem given (given : GivenDelimiters) {deed : Delimiters → Deed}
    (h : ∀ d, e.Requested [deed d]) : e.Requested (givenDeeds given deed) := by
  unfold givenDeeds
  split
  · exact h .standard
  · split
    · exact h _
    · exact nil e

theorem runs {view : Value} {program : Program} {deeds : List Deed}
    (h : Runs view program e deeds) : e.Requested deeds := by
  obtain ⟨requests, hrequests, rfl⟩ := Does.exists_requests h
  refine ⟨requests ++ [], .render hrequests ?_, by rw [List.append_nil]⟩
  rw [Does.engine_eq h]
  exact .done _

theorem install (e : Engine) (partials : Partials) : e.Requested (e.installing partials) := by
  cases partials with
  | resolver r => exact supply e r
  | named texts =>
    rw [installing]
    induction texts generalizing e with
    | nil => exact nil e
    | cons entry texts ih =>
      obtain ⟨name, text⟩ := entry
      refine (register e name .standard text).append ?_
      rw [after_cons, after_nil, did]
      rcases e.compilePartial name .standard text with ⟨fault | program, e'⟩
      · exact nil e'
      · exact ih e'

theorem andThen {α : Type} {outcome : Except SyntaxError α × Engine} {first deeds : List Deed}
    {next : α → Engine → List Deed → Prop} (h : Then outcome first next deeds)
    (hfirst : e.Requested first) (houtcome : outcome.2 = e.after first)
    (hnext : ∀ a e rest, next a e rest → e.Requested rest) : e.Requested deeds := by
  cases h with
  | ok _ hrest => exact hfirst.append (houtcome ▸ hnext _ _ _ hrest)
  | fault _ => exact hfirst

theorem runsWith {view : Value} {partials : Partials} {program : Program} {deeds : List Deed}
    (h : RunsWith view partials program e deeds) : e.Requested deeds :=
  andThen h (install e partials) (e.install_snd partials) fun _ _ _ => runs

end Requested

end Engine

/-- The calls of a command that does not clear the engine come from requests. -/
theorem Session.Calls.requested {s : Session} {c : Command} {i : Nat} {deeds : List Deed}
    (h : s.Calls c i deeds) (hclear : .clear ∉ deeds) : (s.engineAt i).Requested deeds := by
  have hcompiling : ∀ e given text, Engine.Requested e (compiling given text) :=
    fun e given text => .given given fun d => .compile e templateName d text
  cases h with
  | compile ref text given => exact hcompiling _ given text
  | compilePartial ref name text given => exact .given given fun d => .register _ name d text
  | setResolver ref r => exact .supply _ r
  | render ref hthen =>
    exact .andThen hthen (hcompiling _ _ _) (compileGiven_snd _ _ _) fun _ _ _ => .runs
  | renderWith ref hthen =>
    exact .andThen hthen (hcompiling _ _ _) (compileGiven_snd _ _ _) fun _ _ _ => .runsWith
  | run _ hruns => exact .runs hruns
  | runWith _ hruns => exact .runsWith hruns
  | clear ref => exact absurd (List.mem_singleton_self _) hclear
  | idle i _ => exact .nil _

/-- **Whatever a session does, an engine that is not cleared serves requests.** -/
theorem Chronicle.requested {commands : List Command} {journals : List (List Deed)}
    (h : Chronicle commands journals) {journal : List Deed} (hjournal : journal ∈ journals)
    (hclear : .clear ∉ journal) : Engine.empty.Requested journal := by
  induction h generalizing journal with
  | initial =>
    obtain rfl : journal = [] := by simpa using hjournal
    exact .nil _
  | @calls commands journals c i deeds hbefore hcalls ih =>
    obtain ⟨j, hj⟩ := List.mem_iff_getElem?.1 hjournal
    rw [List.getElem?_modify] at hj
    obtain ⟨old, hold, rfl⟩ := Option.map_eq_some_iff.1 hj
    have hmem := List.mem_of_getElem? hold
    split
    · rename_i hij
      subst hij
      rw [if_pos rfl, List.mem_append, not_or] at hclear
      have hengine : (Session.initial.after commands).engineAt i = Engine.empty.after old := by
        rw [Session.engineAt, hbefore.engines_eq, List.getElem?_map, hold]
        rfl
      refine (ih hmem hclear.1).append ?_
      rw [← hengine]
      exact hcalls.requested hclear.2
    · rename_i hij
      rw [if_neg hij] at hclear
      exact ih hmem hclear
  | newEngine _ ih =>
    rcases List.mem_append.1 hjournal with hold | hnew
    · exact ih hold hclear
    · obtain rfl := List.mem_singleton.1 hnew
      exact .nil _

/-! ### What an engine knows -/

/-- The call registers a template under the name. -/
def Deed.Registers (name : String) : Deed → Prop
  | register name' d text => name' = name ∧ ∃ program, Template.compile name' d text = .ok program
  | _ => False

/-- Calls have registered a template under the name. -/
def Known (name : String) (deeds : List Deed) : Prop := ∃ deed ∈ deeds, deed.Registers name

theorem known_append {name : String} {a b : List Deed} :
    Known name (a ++ b) ↔ Known name a ∨ Known name b := by
  simp only [Known, List.mem_append, or_and_right, exists_or]

theorem known_singleton {name : String} {deed : Deed} :
    Known name [deed] ↔ deed.Registers name := by
  simp [Known]

/-- The resolver in place, one more call on. -/
def Deed.resolver (r : Option Resolver) : Deed → Option Resolver
  | supply r => some r
  | _ => r

/-- The resolver put in place last. -/
def supplied (deeds : List Deed) : Option Resolver := deeds.foldl Deed.resolver none

/-- The name that a resolver is asked for. -/
def Deed.asked? : Deed → Option String
  | ask name => some name
  | _ => none

/-- The names that resolvers are asked for, in order. -/
def askedIn (deeds : List Deed) : List String := deeds.filterMap Deed.asked?

namespace Engine

theorem compilePartial_keeps (e : Engine) (name : String) (d : Delimiters) (text : String) :
    (e.compilePartial name d text).2.resolver = e.resolver ∧
      (e.compilePartial name d text).2.asked = (e.compile name d text).2.asked := by
  have hresolver := (e.compile_keeps name d text).2
  unfold compilePartial
  split <;> simp_all

theorem asked_compile (e : Engine) (name : String) (d : Delimiters) (text : String) :
    (e.compile name d text).2.asked = e.asked := by
  rcases e.compile_cases name d text with ⟨_, -, h⟩ | ⟨_, -, h⟩ | ⟨_, -, h⟩ <;> rw [h]

theorem resolver_did (e : Engine) (deed : Deed) :
    (e.did deed).resolver = deed.resolver e.resolver := by
  cases deed with
  | compile name d text => exact (e.compile_keeps name d text).2
  | register name d text => exact (e.compilePartial_keeps name d text).1
  | ask name => rfl
  | supply r => rfl
  | clear => rfl

theorem resolver_after (e : Engine) (deeds : List Deed) :
    (e.after deeds).resolver = deeds.foldl Deed.resolver e.resolver := by
  induction deeds generalizing e with
  | nil => rfl
  | cons deed deeds ih => rw [after_cons, ih, List.foldl_cons, resolver_did]

theorem asked_did (e : Engine) (deed : Deed) : (e.did deed).asked = e.asked ++ askedIn [deed] := by
  cases deed with
  | compile name d text => exact (e.asked_compile name d text).trans (List.append_nil _).symm
  | register name d text =>
    rw [did, (e.compilePartial_keeps name d text).2, asked_compile]
    exact (List.append_nil _).symm
  | ask name => rfl
  | supply r => exact (List.append_nil _).symm
  | clear => exact (List.append_nil _).symm

/-- The engine remembers whom it asked for. -/
theorem asked_after (e : Engine) (deeds : List Deed) :
    (e.after deeds).asked = e.asked ++ askedIn deeds := by
  induction deeds generalizing e with
  | nil => exact (List.append_nil _).symm
  | cons deed deeds ih =>
    rw [after_cons, ih, asked_did, List.append_assoc, askedIn, askedIn, ← List.filterMap_append]
    rfl

/-- One more call leaves the partials known that were, and the one that it registers. -/
theorem isSome_get?_did {e : Engine} (h : e.Sound) {deed : Deed} (hclear : deed ≠ .clear)
    (name : String) : ((e.did deed).partials.get? name).isSome ↔
      (e.partials.get? name).isSome ∨ deed.Registers name := by
  cases deed with
  | compile name' d text =>
    rw [did, (e.compile_keeps name' d text).1]
    exact (or_iff_left id).symm
  | register name' d text =>
    cases hprogram : Template.compile name' d text with
    | ok program =>
      have hregisters : (Deed.register name' d text).Registers name ↔ name' = name :=
        and_iff_left ⟨program, hprogram⟩
      rw [did, e.compilePartial_eq name' d text h hprogram, Dict.get?_insert, hregisters]
      by_cases hname : name' = name <;> simp [hname]
    | error fault =>
      have hfault : (e.compilePartial name' d text).1 = .error fault := by
        rw [compilePartial_fst, compile_eq e name' d text h, hprogram]
      rw [did, compilePartial_of_error hfault]
      simp [Deed.Registers, hprogram]
  | ask name' => exact (or_iff_left id).symm
  | supply r => exact (or_iff_left id).symm
  | clear => exact absurd rfl hclear

/-- **The partials that an engine has are the known ones**, as long as it is not cleared. -/
theorem isSome_get?_after {deeds : List Deed} (hclear : .clear ∉ deeds) (name : String) :
    ((empty.after deeds).partials.get? name).isSome ↔ Known name deeds := by
  induction deeds using List.reverseRecOn with
  | nil => simp [Known, empty]
  | append_singleton deeds deed ih =>
    rw [List.mem_append, not_or, List.mem_singleton] at hclear
    rw [after_append, after_cons, after_nil, known_append, known_singleton, ← ih hclear.1]
    exact isSome_get?_did (coherent_empty.after deeds).sound (Ne.symm hclear.2) name

end Engine

/-! ### Who is asked -/

section Fetching

variable {name : String} {deeds : List Deed}

theorem fetching_of_known (hclear : .clear ∉ deeds) (h : Known name deeds) :
    (Engine.empty.after deeds).fetching name = [] := by
  obtain ⟨program, hprogram⟩ :=
    Option.isSome_iff_exists.1 ((Engine.isSome_get?_after hclear name).2 h)
  simp only [Engine.fetching, hprogram]

/-- For a partial that is not known, the resolver in place is asked. -/
theorem fetching_of_not_known (hclear : .clear ∉ deeds) (h : ¬ Known name deeds) :
    (Engine.empty.after deeds).fetching name =
      match supplied deeds with
      | none => []
      | some r => .ask name :: (r name).toList.map (.register name .standard) := by
  have hnone : (Engine.empty.after deeds).partials.get? name = none := by
    rwa [← Engine.isSome_get?_after hclear, Option.not_isSome_iff_eq_none] at h
  have hresolver : (Engine.empty.after deeds).resolver = supplied deeds :=
    Engine.empty.resolver_after deeds
  simp only [Engine.fetching, hnone, hresolver]
  cases supplied deeds with
  | none => rfl
  | some r => cases hr : r name <;> simp [hr]

end Fetching

theorem account_refer (before : List Request) (name : String) :
    Engine.empty.account (before ++ [.refer name]) =
      Engine.empty.account before ++
        (Engine.empty.after (Engine.empty.account before)).fetching name := by
  rw [Engine.account_append, Engine.account_singleton, Engine.serving]

/-- **Who is asked for a partial**, over requests that leave the engine `last`. -/
structure AskedOnce (requests : List Request) (last : Engine) : Prop where
  /-- What is done to the engine are the calls that the requests come down to. -/
  engine_eq : last = Engine.empty.after (Engine.empty.account requests)
  /-- Resolvers were asked for what the calls ask for. -/
  asked_eq : last.asked = askedIn (Engine.empty.account requests)
  /-- Once a template is registered under a name, nobody is asked for it again. -/
  never_again : ∀ before deed more name, Engine.empty.account requests = before ++ deed :: more →
    deed.Registers name → .ask name ∉ more
  /-- A reference to such a partial changes nothing. -/
  refer_known : ∀ before name, before ++ [.refer name] <+: requests →
    Known name (Engine.empty.account before) →
      Engine.empty.account (before ++ [.refer name]) = Engine.empty.account before
  /-- Without a resolver in place nobody is asked. -/
  refer_unsupplied : ∀ before name, before ++ [.refer name] <+: requests →
    supplied (Engine.empty.account before) = none →
      Engine.empty.account (before ++ [.refer name]) = Engine.empty.account before
  /-- As long as no template is registered under a name, every reference to it asks the resolver in
  place, and what this supplies is registered. -/
  refer_unknown : ∀ before name r, before ++ [.refer name] <+: requests →
    ¬ Known name (Engine.empty.account before) →
    supplied (Engine.empty.account before) = some r →
      Engine.empty.account (before ++ [.refer name]) =
        Engine.empty.account before ++
          .ask name :: (r name).toList.map (.register name .standard)
  /-- Then it is known, if it is a template. -/
  known_of_template : ∀ before name r text program, before ++ [.refer name] <+: requests →
    supplied (Engine.empty.account before) = some r → r name = some text →
    Template.compile name .standard text = .ok program →
      Known name (Engine.empty.account (before ++ [.refer name]))
  /-- If nothing is supplied, or what is no template, the name remains unknown, and no partial is
  registered at all. -/
  not_known_of_fault : ∀ before name r, before ++ [.refer name] <+: requests →
    ¬ Known name (Engine.empty.account before) →
    supplied (Engine.empty.account before) = some r →
    (∀ text program, r name = some text → Template.compile name .standard text ≠ .ok program) →
      ¬ Known name (Engine.empty.account (before ++ [.refer name])) ∧
        (Engine.empty.after (Engine.empty.account (before ++ [.refer name]))).partials =
          (Engine.empty.after (Engine.empty.account before)).partials

/-- Only a reference to a partial that is not known has anybody asked, before anything else. -/
theorem not_known_of_serving_eq {deeds between more : List Deed} {request : Request} {name : String}
    (hclear : .clear ∉ deeds)
    (h : (Engine.empty.after deeds).serving request = between ++ .ask name :: more) :
    between = [] ∧ ¬ Known name deeds := by
  cases request with
  | refer name' =>
    change (Engine.empty.after deeds).fetching name' = _ at h
    by_cases hknown : Known name' deeds
    · rw [fetching_of_known hclear hknown] at h
      simp at h
    · rw [fetching_of_not_known hclear hknown] at h
      cases hr : supplied deeds with
      | none => simp [hr] at h
      | some r =>
        simp only [hr] at h
        rcases List.cons_eq_append_iff.1 h with ⟨rfl, hmore⟩ | ⟨between', rfl, hmore⟩
        · obtain rfl : name = name' := Deed.ask.inj (List.cons.inj hmore).1
          exact ⟨rfl, hknown⟩
        · have hask : Deed.ask name ∈ (r name').toList.map (Deed.register name' .standard) := by
            simp [hmore]
          simp at hask
  | _ => rcases between with _ | ⟨deed, between⟩ <;> simp [Engine.serving] at h

/-- Whoever is asked for a partial, at that moment it is not known. -/
theorem not_known_of_account_eq {requests : List Request} {before more : List Deed} {name : String}
    (h : Engine.empty.account requests = before ++ .ask name :: more) : ¬ Known name before := by
  -- from the last request on: the call is one that it comes down to, or was made before it
  induction requests using List.reverseRecOn generalizing more with
  | nil => simp [Engine.account] at h
  | append_singleton requests request ih =>
    have hclear := Engine.empty.clear_notMem_account requests
    rw [Engine.account_append, Engine.account_singleton] at h
    rcases List.append_eq_append_iff.1 h with ⟨between, rfl, hserving⟩ | ⟨between, hold, hserving⟩
    · obtain ⟨rfl, hknown⟩ := not_known_of_serving_eq hclear hserving
      rwa [List.append_nil]
    · rcases List.cons_eq_append_iff.1 hserving with ⟨rfl, hnow⟩ | ⟨between', rfl, -⟩
      · rw [List.append_nil] at hold
        rw [← List.nil_append (Deed.ask name :: more)] at hnow
        rw [← hold]
        exact (not_known_of_serving_eq hclear hnow).2
      · exact ih hold

/-- A text that is no template is registered under no name. -/
theorem not_known_of_answer {name : String} {r : Resolver}
    (h : ∀ text program, r name = some text →
      Template.compile name .standard text ≠ .ok program) :
    ¬ Known name (.ask name :: (r name).toList.map (.register name .standard)) := by
  rintro ⟨deed, hdeed, hregisters⟩
  cases hr : r name with
  | none =>
    simp only [hr, Option.toList_none, List.map_nil, List.mem_singleton] at hdeed
    rw [hdeed] at hregisters
    exact hregisters
  | some text =>
    simp only [hr, Option.toList_some, List.map_cons, List.map_nil, List.mem_cons,
      List.not_mem_nil, or_false] at hdeed
    obtain rfl | rfl := hdeed
    · exact hregisters
    · obtain ⟨-, program, hprogram⟩ := hregisters
      exact h text program hr hprogram

/-- An answer that is no template leaves the partials as they are. -/
theorem partials_after_answer {e : Engine} (hsound : e.Sound) {name : String} {r : Resolver}
    (h : ∀ text program, r name = some text →
      Template.compile name .standard text ≠ .ok program) :
    (e.after (.ask name :: (r name).toList.map (.register name .standard))).partials =
      e.partials := by
  cases hr : r name with
  | none => rfl
  | some text =>
    have hasked : (e.ask name).Sound := hsound
    cases hprogram : Template.compile name .standard text with
    | ok program => exact absurd hprogram (h text program hr)
    | error fault =>
      have hfault : ((e.ask name).compilePartial name .standard text).1 = .error fault := by
        rw [Engine.compilePartial_fst, Engine.compile_eq _ name .standard text hasked, hprogram]
      change ((e.ask name).compilePartial name .standard text).2.partials = e.partials
      rw [Engine.compilePartial_of_error hfault]
      rfl

/-- **Over any requests it is clear who is asked when.** -/
theorem Engine.Serves.askedOnce {requests : List Request} {last : Engine}
    (h : Engine.empty.Serves requests last) : AskedOnce requests last where
  engine_eq := h.engine_eq
  asked_eq := by
    rw [h.engine_eq, Engine.asked_after]
    exact List.nil_append _
  never_again before deed more name haccount hregisters hask := by
    obtain ⟨between, rest, rfl⟩ := List.append_of_mem hask
    have hsplit : Engine.empty.account requests =
        (before ++ deed :: between) ++ .ask name :: rest := by
      rw [haccount, List.append_assoc, List.cons_append]
    exact not_known_of_account_eq hsplit ⟨deed, by simp, hregisters⟩
  refer_known before name _ hknown := by
    rw [account_refer, fetching_of_known (Engine.empty.clear_notMem_account before) hknown,
      List.append_nil]
  refer_unsupplied before name _ hnone := by
    have hclear := Engine.empty.clear_notMem_account before
    rw [account_refer]
    by_cases hknown : Known name (Engine.empty.account before)
    · rw [fetching_of_known hclear hknown, List.append_nil]
    · simp only [fetching_of_not_known hclear hknown, hnone, List.append_nil]
  refer_unknown before name r _ hknown hr := by
    rw [account_refer, fetching_of_not_known (Engine.empty.clear_notMem_account before) hknown, hr]
  known_of_template before name r text program _ hr htext hprogram := by
    have hclear := Engine.empty.clear_notMem_account before
    rw [account_refer, known_append]
    by_cases hknown : Known name (Engine.empty.account before)
    · exact .inl hknown
    · refine .inr ⟨.register name .standard text, ?_, rfl, program, hprogram⟩
      simp [fetching_of_not_known hclear hknown, hr, htext]
  not_known_of_fault before name r _ hknown hr hanswer := by
    have hclear := Engine.empty.clear_notMem_account before
    rw [account_refer, fetching_of_not_known hclear hknown, hr, known_append,
      Engine.after_append]
    exact ⟨not_or.2 ⟨hknown, not_known_of_answer hanswer⟩,
      partials_after_answer (Engine.coherent_empty.after _).sound hanswer⟩

/-- **A resolver is asked once for each partial that it can supply.** So it is over any requests
that an engine serves without being cleared. Every rendering makes requests; and whatever a session
does, the calls on an engine that it does not clear come from requests that the engine serves. -/
theorem askedOnce_of_serves :
    (∀ requests last, Engine.empty.Serves requests last → AskedOnce requests last) ∧
      (∀ depth program scene, ∃ requests, Requests (Program.render depth program) scene requests) ∧
      ∀ commands journals, Chronicle commands journals →
        ∀ journal ∈ journals, .clear ∉ journal →
          ∃ requests, Engine.empty.Serves requests (Engine.empty.after journal) ∧
            Engine.empty.account requests = journal :=
  ⟨fun _ _ h => h.askedOnce, exists_requests,
    fun _ _ h _ hjournal hclear => h.requested hjournal hclear⟩

/-- Tips that may hold more tips, a torn bill, and nothing else. -/
def waiter : Resolver
  | "tip" => some "!\x7b\x7b#more\x7d\x7d\x7b\x7b>tip\x7d\x7d\x7b\x7b/more\x7d\x7d"
  | "bill" => some "\x7b\x7b/tip\x7d\x7d"
  | _ => none

/-- An engine with this resolver and nothing else. -/
def attended : Engine := { Engine.empty with resolver := some waiter }

/-- Two dishes, and one tip more. -/
def supper : Frame :=
  .root (.object [("dishes", .array [.string "soup", .string "bread"]),
    ("more", .array [.object [("more", .bool false)]])])

/-- A tip with each dish, salt, and the bill. -/
def courses : Program :=
  [.block "dishes" [.partialRef "tip"] (.pure ""), .partialRef "salt", .partialRef "bill"]

/-- Over two suppers the waiter is asked for a tip once, and twice for salt and for the bill. -/
theorem askedOnce_of_serves_waiter : ∃ requests last, Engine.empty.Serves requests last ∧
    last.asked = ["tip", "salt", "bill", "salt", "bill"] ∧ AskedOnce requests last := by
  obtain ⟨first, hfirst⟩ := exists_requests 4 courses ⟨attended, supper⟩
  obtain ⟨second, hsecond⟩ := exists_requests 4 courses
    ⟨((courses.render 4).run.run ⟨attended, supper⟩).run.2.engine, supper⟩
  have hserves : Engine.empty.Serves _ _ :=
    .setResolver waiter (.render hfirst (.render hsecond (.done _)))
  exact ⟨_, _, hserves, by decide +kernel, askedOnce_of_serves.1 _ _ hserves⟩

end LiveTable.Template
