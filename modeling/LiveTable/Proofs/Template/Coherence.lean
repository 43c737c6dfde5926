import LiveTable.Proofs.Template.Journal
import LiveTable.Template.Session
import Mathlib.Data.List.Forall2
import Mathlib.Data.List.Induction

/-!
# Engines over a session

Whatever a session does, every command comes down to calls on one engine: those that compile a
template, put partials at hand and render, whatever lambdas and partials ask for on the way.

* `givenDeeds`, `Engine.installing`: the calls of compiling a template and of putting partials at
  hand;
* `Then`: the calls of an operation and of what follows it;
* `Engine.Runs`, `Engine.RunsWith`: the calls of rendering a program;
* `Session.Calls s c i deeds`: the calls of a command on the engine at a place;
* `Session.Calls.engines_eq`: and what they leave of the engines;
* `Chronicle commands journals`: the calls on each engine over commands from the start;
* `Chronicle.engines_eq`, `exists_chronicle`: the engines are what their journals say, and there
  are journals of any commands;
* `Engine.Faithful e deeds`: what the engine keeps does not show, and is what the calls left;
* `Session.step_of_fault`: a text that is no template leaves the session as it was;
* `Session.faithful_after`: every engine is faithful to its journal, after any commands.
-/

namespace LiveTable.Template

/-! ### The calls of one operation -/

/-- The calls of an operation with delimiters as given: none, if they are no delimiters. -/
def givenDeeds (given : GivenDelimiters) (deed : Delimiters → Deed) : List Deed :=
  match given with
  | none => [deed .standard]
  | some (opening, closing) =>
    match givenDelimiters opening closing with
    | .ok d => [deed d]
    | .error _ => []

/-- The calls that compile a template text with delimiters as given. -/
def compiling (given : GivenDelimiters) (text : String) : List Deed :=
  givenDeeds given (.compile templateName · text)

/-- Delimiters as given are delimiters, or nothing is done. -/
theorem withDelimiters_cases {α : Type} (e : Engine) (given : GivenDelimiters) (name text : String)
    (operation : Delimiters → Except SyntaxError α × Engine) (deed : Delimiters → Deed) :
    (∃ d, givenDeeds given deed = [deed d] ∧
        Session.withDelimiters e given name text operation = operation d) ∨
      ∃ error, givenDeeds given deed = [] ∧
        Session.withDelimiters e given name text operation = (.error error, e) := by
  cases given with
  | none => exact .inl ⟨.standard, rfl, rfl⟩
  | some given =>
    obtain ⟨opening, closing⟩ := given
    simp only [Session.withDelimiters, Engine.withGiven, givenDeeds]
    cases givenDelimiters opening closing with
    | ok d => exact .inl ⟨d, rfl, rfl⟩
    | error fault => exact .inr ⟨_, rfl, rfl⟩

/-- An operation that is one call with valid delimiters is its calls with delimiters as given. -/
theorem withDelimiters_snd {α : Type} {e : Engine} {name text : String}
    {operation : Delimiters → Except SyntaxError α × Engine} {deed : Delimiters → Deed}
    (h : ∀ d, (operation d).2 = e.did (deed d)) (given : GivenDelimiters) :
    (Session.withDelimiters e given name text operation).2 = e.after (givenDeeds given deed) := by
  rcases withDelimiters_cases e given name text operation deed with
    ⟨d, hdeeds, hsame⟩ | ⟨error, hdeeds, hsame⟩
  · rw [hdeeds, hsame]
    exact h d
  · rw [hdeeds, hsame, Engine.after_nil]

theorem compileGiven_snd (e : Engine) (given : GivenDelimiters) (text : String) :
    (Session.compileGiven e given text).2 = e.after (compiling given text) :=
  withDelimiters_snd (fun _ => rfl) given

namespace Engine

/-- The calls that register texts in order, up to the first with a fault. -/
def installingTexts (e : Engine) : List (String × String) → List Deed
  | [] => []
  | (name, text) :: texts =>
    .register name .standard text ::
      match e.compilePartial name .standard text with
      | (.ok _, e) => installingTexts e texts
      | (.error _, _) => []

/-- The calls that put partials at hand. -/
def installing (e : Engine) : Partials → List Deed
  | .named texts => e.installingTexts texts
  | .resolver r => [.supply r]

theorem installTexts_snd (e : Engine) (texts : List (String × String)) :
    (e.installTexts texts).2 = e.after (e.installingTexts texts) := by
  induction texts generalizing e with
  | nil => rfl
  | cons entry texts ih =>
    obtain ⟨name, text⟩ := entry
    rw [installTexts, installingTexts, after_cons, did]
    rcases e.compilePartial name .standard text with ⟨fault | program, e'⟩
    · rfl
    · exact ih e'

theorem install_snd (e : Engine) (partials : Partials) :
    (e.install partials).2 = e.after (e.installing partials) := by
  cases partials with
  | named texts => exact e.installTexts_snd texts
  | resolver r => rfl

end Engine

/-! ### The calls of rendering -/

/-- The calls of an operation and, unless it met a fault, of what follows it. -/
inductive Then {α : Type} (outcome : Except SyntaxError α × Engine) (first : List Deed)
    (next : α → Engine → List Deed → Prop) : List Deed → Prop where
  | ok {a : α} {rest : List Deed} : outcome.1 = .ok a → next a outcome.2 rest →
      Then outcome first next (first ++ rest)
  | fault {error : SyntaxError} : outcome.1 = .error error → Then outcome first next first

section

variable {α : Type} {outcome : Except SyntaxError α × Engine} {first : List Deed}
  {next : α → Engine → List Deed → Prop}

theorem Then.engine_eq {deeds : List Deed} (h : Then outcome first next deeds) {e after : Engine}
    (hfirst : outcome.2 = e.after first)
    (hok : ∀ a rest, outcome = (.ok a, outcome.2) → next a outcome.2 rest →
      after = outcome.2.after rest)
    (hfault : ∀ error, outcome = (.error error, outcome.2) → after = outcome.2) :
    after = e.after deeds := by
  cases h with
  | ok hresult hrest =>
    rw [Engine.after_append, ← hfirst]
    exact hok _ _ (Prod.ext hresult rfl) hrest
  | fault hresult =>
    rw [← hfirst]
    exact hfault _ (Prod.ext hresult rfl)

theorem Then.exists (hnext : ∀ a e, ∃ rest, next a e rest) :
    ∃ deeds, Then outcome first next deeds := by
  cases hresult : outcome.1 with
  | ok a =>
    obtain ⟨rest, hrest⟩ := hnext a outcome.2
    exact ⟨_, .ok hresult hrest⟩
  | error error => exact ⟨_, .fault hresult⟩

end

namespace Engine

/-- The calls of rendering a program over a view. -/
def Runs (view : Value) (program : Program) (e : Engine) (deeds : List Deed) : Prop :=
  Does (program.render depthLimit) ⟨e, .root view⟩ deeds

theorem Runs.engine_eq {view : Value} {program : Program} {e : Engine} {deeds : List Deed}
    (h : Runs view program e deeds) : (e.run program view).2 = e.after deeds :=
  Does.engine_eq h

theorem exists_runs (view : Value) (program : Program) (e : Engine) :
    ∃ deeds, Runs view program e deeds :=
  (stepwise_render depthLimit program).exists_does _

/-- The calls of rendering a program over a view, with partials put at hand first. -/
def RunsWith (view : Value) (partials : Partials) (program : Program) (e : Engine) :
    List Deed → Prop :=
  Then (e.install partials) (e.installing partials) fun _ => Runs view program

theorem RunsWith.engine_eq {view : Value} {partials : Partials} {program : Program} {e : Engine}
    {deeds : List Deed} (h : RunsWith view partials program e deeds) :
    (e.runWith program view partials).2 = e.after deeds := by
  refine Then.engine_eq h (e.install_snd partials) (fun _ rest hinstall hruns => ?_)
    fun error hinstall => ?_
  · rw [runWith, hinstall]
    exact hruns.engine_eq
  · rw [runWith, hinstall]

theorem exists_runsWith (view : Value) (partials : Partials) (program : Program) (e : Engine) :
    ∃ deeds, RunsWith view partials program e deeds :=
  Then.exists fun _ => exists_runs view program

end Engine

/-! ### The calls of a command -/

namespace Session

variable {s : Session} {c : Command} {i : Nat} {deeds : List Deed}

/-- The command asks nothing of an engine. -/
def Idle (s : Session) : Command → Prop
  | .run template _ | .runWith template _ _ => s.compiled[template]? = none
  | .share _ | .engineOf _ | .inspectEngine _ | .inspectTemplate _ | .inspectPartials _ => True
  | _ => False

/-- The calls of a command on the engine at a place. A new engine is made without any. -/
inductive Calls (s : Session) : Command → Nat → List Deed → Prop where
  | compile (ref : EngineRef) (text : String) (given : GivenDelimiters) :
      Calls s (.compile ref text given) (s.engineIndex ref) (compiling given text)
  | compilePartial (ref : EngineRef) (name text : String) (given : GivenDelimiters) :
      Calls s (.compilePartial ref name text given) (s.engineIndex ref)
        (givenDeeds given (.register name · text))
  | setResolver (ref : EngineRef) (r : Resolver) :
      Calls s (.setResolver ref r) (s.engineIndex ref) [.supply r]
  | render (ref : EngineRef) {text : String} {view : Value} {given : GivenDelimiters}
      {deeds : List Deed} :
      Then (compileGiven (s.engineAt (s.engineIndex ref)) given text) (compiling given text)
        (Engine.Runs view) deeds →
      Calls s (.render ref text view given) (s.engineIndex ref) deeds
  | renderWith (ref : EngineRef) {text : String} {view : Value} {given : GivenDelimiters}
      {partials : Partials} {deeds : List Deed} :
      Then (compileGiven (s.engineAt (s.engineIndex ref)) given text) (compiling given text)
        (Engine.RunsWith view partials) deeds →
      Calls s (.renderWith ref text view given partials) (s.engineIndex ref) deeds
  | run {template : Nat} {view : Value} {c : Compiled} {deeds : List Deed} :
      s.compiled[template]? = some c → Engine.Runs view c.program (s.engineAt c.engine) deeds →
      Calls s (.run template view) c.engine deeds
  | runWith {template : Nat} {view : Value} {partials : Partials} {c : Compiled}
      {deeds : List Deed} : s.compiled[template]? = some c →
      Engine.RunsWith view partials c.program (s.engineAt c.engine) deeds →
      Calls s (.runWith template view partials) c.engine deeds
  | clear (ref : EngineRef) : Calls s (.clear ref) (s.engineIndex ref) [.clear]
  | idle {c : Command} (i : Nat) : s.Idle c → Calls s c i []

/-- Every command makes calls on an engine, unless it makes a new one. -/
theorem exists_calls (s : Session) (h : c ≠ .newEngine) : ∃ i deeds, s.Calls c i deeds := by
  cases c with
  | compile ref text given => exact ⟨_, _, .compile ref text given⟩
  | compilePartial ref name text given => exact ⟨_, _, .compilePartial ref name text given⟩
  | setResolver ref r => exact ⟨_, _, .setResolver ref r⟩
  | render ref text view given =>
    obtain ⟨deeds, hdeeds⟩ := Then.exists (Engine.exists_runs view)
    exact ⟨_, deeds, .render ref hdeeds⟩
  | renderWith ref text view given partials =>
    obtain ⟨deeds, hdeeds⟩ := Then.exists (Engine.exists_runsWith view partials)
    exact ⟨_, deeds, .renderWith ref hdeeds⟩
  | run template view =>
    cases htemplate : s.compiled[template]? with
    | none => exact ⟨0, _, .idle 0 htemplate⟩
    | some c =>
      obtain ⟨deeds, hdeeds⟩ := Engine.exists_runs view c.program (s.engineAt c.engine)
      exact ⟨_, deeds, .run htemplate hdeeds⟩
  | runWith template view partials =>
    cases htemplate : s.compiled[template]? with
    | none => exact ⟨0, _, .idle 0 htemplate⟩
    | some c =>
      obtain ⟨deeds, hdeeds⟩ :=
        Engine.exists_runsWith view partials c.program (s.engineAt c.engine)
      exact ⟨_, deeds, .runWith htemplate hdeeds⟩
  | clear ref => exact ⟨_, _, .clear ref⟩
  | newEngine => exact absurd rfl h
  | share | engineOf | inspectEngine | inspectTemplate | inspectPartials =>
    exact ⟨0, _, .idle 0 trivial⟩

/-- Calls on the engine at a place leave the others as they are. -/
theorem engines_setEngine {e : Engine} (h : e = (s.engineAt i).after deeds) :
    (s.setEngine i e).engines = s.engines.modify i (·.after deeds) := by
  rw [h, setEngine, engineAt, List.modify_eq_set_getElem?]
  cases hi : s.engines[i]? with
  | some e => rfl
  | none => exact List.set_eq_of_length_le (List.getElem?_eq_none_iff.1 hi)

theorem engines_addCompiled (outcome : Except SyntaxError Program × Engine)
    (h : outcome.2 = (s.engineAt i).after deeds) :
    (s.addCompiled i outcome).2.engines = s.engines.modify i (·.after deeds) := by
  rw [← engines_setEngine h, addCompiled]
  split <;> rfl

theorem engines_rendered (outcome : Except Stop String × Engine)
    (h : outcome.2 = (s.engineAt i).after deeds) :
    (s.rendered i outcome).2.engines = s.engines.modify i (·.after deeds) := by
  rw [← engines_setEngine h, rendered]
  split <;> rfl

theorem engines_onCompiled (answer : Compiled → Reply × Session) (template : Nat)
    (h : ∀ c, s.compiled[template]? = some c → (answer c).2.engines = s.engines) :
    (s.onCompiled template answer).2.engines = s.engines := by
  unfold onCompiled
  split
  · exact h _ ‹_›
  · rfl

theorem engines_of_idle (h : s.Idle c) : (s.step c).2.engines = s.engines := by
  cases c with
  | run template view =>
    exact engines_onCompiled _ template fun c hc => absurd (h.symm.trans hc) nofun
  | runWith template view partials =>
    exact engines_onCompiled _ template fun c hc => absurd (h.symm.trans hc) nofun
  | engineOf template => exact engines_onCompiled _ template fun _ _ => rfl
  | inspectTemplate template => exact engines_onCompiled _ template fun _ _ => rfl
  | share | inspectEngine | inspectPartials => rfl
  | _ => exact h.elim

/-- The calls of rendering a template text with delimiters as given. -/
theorem renderGiven_snd {e : Engine} {given : GivenDelimiters} {text : String}
    {next : Program → Engine → List Deed → Prop}
    (h : Then (compileGiven e given text) (compiling given text) next deeds)
    {run : Engine → Program → Except Stop String × Engine}
    (hrun : ∀ {program e deeds}, next program e deeds → (run e program).2 = e.after deeds) :
    (renderGiven e given text run).2 = e.after deeds := by
  refine h.engine_eq (compileGiven_snd e given text) (fun program rest hcompile hnext => ?_)
    fun error hcompile => ?_
  · rw [renderGiven, hcompile]
    exact hrun hnext
  · rw [renderGiven, hcompile]

/-- **The calls of a command are all that it does to the engines.** -/
theorem Calls.engines_eq (h : s.Calls c i deeds) :
    (s.step c).2.engines = s.engines.modify i (·.after deeds) := by
  cases h with
  | compile ref text given => exact engines_addCompiled _ (compileGiven_snd _ given text)
  | compilePartial ref name text given =>
    exact engines_addCompiled _ (withDelimiters_snd (fun _ => rfl) given)
  | setResolver ref r => exact engines_setEngine rfl
  | render ref hthen =>
    exact engines_rendered _ (renderGiven_snd hthen fun h => h.engine_eq)
  | renderWith ref hthen =>
    exact engines_rendered _ (renderGiven_snd hthen fun h => h.engine_eq)
  | run hc hruns =>
    rw [step, onCompiled, hc]
    exact engines_rendered _ hruns.engine_eq
  | runWith hc hruns =>
    rw [step, onCompiled, hc]
    exact engines_rendered _ hruns.engine_eq
  | clear ref => exact engines_setEngine rfl
  | idle i hidle =>
    rw [engines_of_idle hidle]
    exact (List.modify_id i s.engines).symm

/-! ### The calls of a session -/

/-- The session after commands. -/
def after (s : Session) (commands : List Command) : Session :=
  commands.foldl (fun s c => (s.step c).2) s

theorem after_append (s : Session) (a b : List Command) :
    s.after (a ++ b) = (s.after a).after b := by
  simp only [after, List.foldl_append]

end Session

/-- The calls on each engine over commands from the start, in order. -/
inductive Chronicle : List Command → List (List Deed) → Prop where
  | initial : Chronicle [] [[], []]
  | calls {commands : List Command} {journals : List (List Deed)} {c : Command} {i : Nat}
      {deeds : List Deed} : Chronicle commands journals →
      (Session.initial.after commands).Calls c i deeds →
      Chronicle (commands ++ [c]) (journals.modify i (· ++ deeds))
  | newEngine {commands : List Command} {journals : List (List Deed)} :
      Chronicle commands journals → Chronicle (commands ++ [.newEngine]) (journals ++ [[]])

theorem exists_chronicle (commands : List Command) : ∃ journals, Chronicle commands journals := by
  induction commands using List.reverseRecOn with
  | nil => exact ⟨_, .initial⟩
  | append_singleton commands c ih =>
    obtain ⟨journals, hjournals⟩ := ih
    by_cases hnew : c = .newEngine
    · subst hnew
      exact ⟨_, .newEngine hjournals⟩
    · obtain ⟨i, deeds, hcalls⟩ := (Session.initial.after commands).exists_calls hnew
      exact ⟨_, .calls hjournals hcalls⟩

/-- **Every engine of a session is what its journal makes of an engine without anything.** -/
theorem Chronicle.engines_eq {commands : List Command} {journals : List (List Deed)}
    (h : Chronicle commands journals) :
    (Session.initial.after commands).engines = journals.map Engine.empty.after := by
  induction h with
  | initial => rfl
  | @calls commands journals c i deeds _ hcalls ih =>
    rw [Session.after_append]
    refine hcalls.engines_eq.trans ?_
    rw [ih]
    refine List.ext_getElem? fun j => ?_
    rw [List.getElem?_modify, List.getElem?_map, List.getElem?_map, List.getElem?_modify]
    cases journals[j]? with
    | none => rfl
    | some journal => split <;> simp [Engine.after_append, *]
  | newEngine _ ih =>
    rw [Session.after_append, List.map_append, ← ih]
    rfl

/-! ### What the engines keep -/

/-- What an engine keeps does not show, and is what the calls on it left. -/
structure Engine.Faithful (e : Engine) (deeds : List Deed) : Prop where
  /-- Every program at hand is the one that an engine without any compiles. -/
  programs : ∀ d text program, e.programs.get? (d, text) = some program →
    (empty.compile templateName d text).1 = .ok program
  /-- Every text is compiled as an engine without programs does it, or has the same fault. -/
  compile : ∀ name d text, (e.compile name d text).1 = (empty.compile name d text).1
  compilePartial : ∀ name d text,
    (e.compilePartial name d text).1 = (empty.compilePartial name d text).1
  /-- The programs at hand are as many as the different templates compiled since the last
  clearing. -/
  size : e.size = (compiledSince deeds).dedup.length
  /-- A text with a fault changes nothing. -/
  compile_fault : ∀ name d text fault, (e.compile name d text).1 = .error fault →
    (e.compile name d text).2 = e
  compilePartial_fault : ∀ name d text fault, (e.compilePartial name d text).1 = .error fault →
    (e.compilePartial name d text).2 = e

theorem Engine.faithful_after_empty (deeds : List Deed) :
    (empty.after deeds).Faithful deeds := by
  have hcoherent := coherent_empty.after deeds
  have hcompile : ∀ name d text, ((empty.after deeds).compile name d text).1 =
      (empty.compile name d text).1 := fun name d text => by
    rw [compile_eq _ name d text hcoherent.sound, compile_eq _ name d text sound_empty]
  exact {
    programs := fun d text program hprogram => by
      rw [compile_eq _ _ d text sound_empty]
      exact hcoherent.sound d text program hprogram
    compile := hcompile
    compilePartial := fun name d text => by
      rw [compilePartial_fst, compilePartial_fst, hcompile]
    size := hcoherent.size_eq
    compile_fault := fun _ _ _ _ => compile_of_error
    compilePartial_fault := fun _ _ _ _ => compilePartial_of_error }

namespace Session

theorem withDelimiters_of_error {α : Type} {e : Engine} {name text : String}
    {operation : Delimiters → Except SyntaxError α × Engine}
    (h : ∀ d error, (operation d).1 = .error error → (operation d).2 = e)
    {given : GivenDelimiters} {error : SyntaxError}
    (herror : (withDelimiters e given name text operation).1 = .error error) :
    (withDelimiters e given name text operation).2 = e := by
  rcases withDelimiters_cases e given name text operation fun _ => .clear with
    ⟨d, -, hsame⟩ | ⟨fault, -, hsame⟩
  · rw [hsame] at herror ⊢
    exact h d error herror
  · rw [hsame]

theorem setEngine_engineAt (s : Session) (i : Nat) : s.setEngine i (s.engineAt i) = s := by
  have hnone : s.engineAt i = (s.engineAt i).after [] := rfl
  have hengines : (s.setEngine i (s.engineAt i)).engines = s.engines :=
    (engines_setEngine hnone).trans (List.modify_id i s.engines)
  obtain ⟨engines, handles, compiled⟩ := s
  exact congrArg (Session.mk · handles compiled) hengines

theorem addCompiled_of_fault {s : Session} {i : Nat}
    {outcome : Except SyntaxError Program × Engine}
    (h : ∀ error, outcome.1 = .error error → outcome.2 = s.engineAt i) {fault : SyntaxError}
    (hfault : (s.addCompiled i outcome).1 = .fault fault) : (s.addCompiled i outcome).2 = s := by
  obtain ⟨result | program, e⟩ := outcome
  · obtain rfl : e = s.engineAt i := h result rfl
    exact s.setEngine_engineAt i
  · cases hfault

/-- The command compiles a template or a partial. -/
def Compiles : Command → Prop
  | .compile _ _ _ | .compilePartial _ _ _ _ => True
  | _ => False

/-- **A template or a partial with a fault leaves the session as it was.** -/
theorem step_of_fault {s : Session} {c : Command} (hc : Compiles c) {fault : SyntaxError}
    (hfault : (s.step c).1 = .fault fault) : (s.step c).2 = s := by
  cases c with
  | compile ref text given =>
    exact addCompiled_of_fault
      (fun _ => withDelimiters_of_error fun _ _ => Engine.compile_of_error) hfault
  | compilePartial ref name text given =>
    exact addCompiled_of_fault
      (fun _ => withDelimiters_of_error fun _ _ => Engine.compilePartial_of_error) hfault
  | _ => exact hc.elim

/-- **What the engines of a session keep does not show**, and is what the journals tell. An engine
is faithful to any calls on it, also to those that rendering makes on the way; over any commands
there are journals, and every engine is faithful to its own; and a template or a partial with a
fault leaves the session as it was. -/
theorem faithful_after (commands : List Command) :
    (∀ deeds, (Engine.empty.after deeds).Faithful deeds) ∧
      (∃ journals, Chronicle commands journals) ∧
      (∀ journals, Chronicle commands journals →
        List.Forall₂ Engine.Faithful (initial.after commands).engines journals) ∧
      ∀ c fault, Compiles c → ((initial.after commands).step c).1 = .fault fault →
        ((initial.after commands).step c).2 = initial.after commands := by
  refine ⟨Engine.faithful_after_empty, exists_chronicle commands, fun journals hjournals => ?_,
    fun c fault hc => step_of_fault hc⟩
  rw [hjournals.engines_eq, List.forall₂_map_left_iff, List.forall₂_same]
  exact fun deeds _ => Engine.faithful_after_empty deeds

/-- A template, soon forgotten, a partial, another text for it that is no template, a resolver, and
a bill whose lambda renders a template and which ends with a partial that the resolver supplies. -/
def tavern : List Command :=
  [.compile .default "\x7b\x7bname\x7d\x7d" none,
    .clear .default,
    .compilePartial .default "dish" "\x7b\x7bname\x7d\x7d;" none,
    .compilePartial .default "dish" "\x7b\x7b/name\x7d\x7d" none,
    .setResolver .default fun name => if name = "tip" then some "!" else none,
    .render .default "\x7b\x7bpay\x7d\x7d\x7b\x7b>tip\x7d\x7d\x7b\x7b>dish\x7d\x7d"
      (.object [("pay", .lambda 0 (.render (.const (.string "10 \x7b\x7bcoin\x7d\x7d")) "" ""))])
      none]

/-- A template that ends a section it did not begin. -/
def tornBill : Command := .compile .default "\x7b\x7b/dish\x7d\x7d" none

/-- The default engine knows the partial, the bill, the lambda's template and the tip. -/
theorem faithful_after_tavern :
    (∃ journals, Chronicle tavern journals ∧
      journals.map (fun deeds => (compiledSince deeds).dedup.length) = [4, 0]) ∧
    ∃ fault, ((initial.after tavern).step tornBill).1 = .fault fault ∧
      ((initial.after tavern).step tornBill).2 = initial.after tavern := by
  obtain ⟨-, ⟨journals, hjournals⟩, hfaithful, hkept⟩ := faithful_after tavern
  have hsizes : (initial.after tavern).engines.map Engine.size = [4, 0] := by decide +kernel
  have hcounts : (initial.after tavern).engines.map Engine.size =
      journals.map fun deeds => (compiledSince deeds).dedup.length := by
    rw [← List.forall₂_eq_eq_eq, List.forall₂_map_left_iff, List.forall₂_map_right_iff]
    exact (hfaithful journals hjournals).imp fun _ _ h => h.size
  refine ⟨⟨journals, hjournals, hcounts.symm.trans hsizes⟩, ?_⟩
  have hreply : (match ((initial.after tavern).step tornBill).1 with
      | .fault _ => true
      | _ => false) = true := by decide +kernel
  split at hreply
  · rename_i fault hfault
    exact ⟨fault, hfault, hkept _ fault trivial hfault⟩
  · cases hreply

end Session

end LiveTable.Template
