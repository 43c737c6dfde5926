import LiveTable.Proofs.Template.Compiling
import LiveTable.Proofs.Template.Stepwise

/-!
# Partials registered before and partials asked for

Partials may be given as texts, all of which are registered before anything is rendered, or by a
resolver, which is asked when a partial is first met. The two ways give the same text: at every
moment of the two renderings the engines agree on what each name stands for.

* `Agree supply eager lazy`: one engine has the partials that the other one is supplied with;
* `Alike supply x`: a computation in such engines goes the same way in both and leaves such engines;
* `alike_render`: programs are rendered alike;
* `exists_agree_installTexts`: registering texts leaves an engine that agrees with one that asks for
  them;
* `renderWith_named_eq_resolver`: the two ways to give partials.
-/

namespace LiveTable.Template

/-- Of two engines one has all partials registered that a resolver supplies to the other one, which
may have registered some of them, too. What is supplied are templates. -/
structure Agree (supply : Resolver) (eager lazy : Engine) : Prop where
  sound_eager : eager.Sound
  sound_lazy : lazy.Sound
  resolver_eager : eager.resolver = none
  resolver_lazy : lazy.resolver = some supply
  missing : ∀ name, supply name = none → eager.partials.get? name = none
  supplied : ∀ name text, supply name = some text → ∃ program,
    compile name .standard text = .ok program ∧ eager.partials.get? name = some program
  registered : ∀ name program, lazy.partials.get? name = some program →
    eager.partials.get? name = some program

variable {supply : Resolver} {eager lazy : Engine}

/-- Compiling a text has the same outcome in both engines. -/
theorem Agree.compile (h : Agree supply eager lazy) (name : String) (d : Delimiters)
    (text : String) :
    (eager.compile name d text).1 = (lazy.compile name d text).1 ∧
      Agree supply (eager.compile name d text).2 (lazy.compile name d text).2 := by
  obtain ⟨hpartials, hresolver⟩ := eager.compile_keeps name d text
  obtain ⟨hpartials', hresolver'⟩ := lazy.compile_keeps name d text
  refine ⟨?_, h.sound_eager.compile name d text, h.sound_lazy.compile name d text, ?_, ?_, ?_, ?_,
    ?_⟩
  · rw [Engine.compile_eq _ _ _ _ h.sound_eager, Engine.compile_eq _ _ _ _ h.sound_lazy]
  · rw [hresolver, h.resolver_eager]
  · rw [hresolver', h.resolver_lazy]
  · rw [hpartials]
    exact h.missing
  · rw [hpartials]
    exact h.supplied
  · rw [hpartials, hpartials']
    exact h.registered

/-- A partial is the same program in both engines, whether it is asked for or not. -/
theorem Agree.loadPartial (h : Agree supply eager lazy) (name : String) :
    (eager.loadPartial name).1 = (lazy.loadPartial name).1 ∧
      Agree supply (eager.loadPartial name).2 (lazy.loadPartial name).2 := by
  cases hlazy : lazy.partials.get? name with
  | some program =>
    rw [Engine.loadPartial_of_registered hlazy,
      Engine.loadPartial_of_registered (h.registered name program hlazy)]
    exact ⟨rfl, h⟩
  | none =>
    cases hsupply : supply name with
    | none =>
      rw [Engine.loadPartial_of_missing (h.missing name hsupply) h.resolver_eager,
        Engine.loadPartial_of_unsupplied hlazy h.resolver_lazy hsupply]
      exact ⟨rfl, ⟨h.sound_eager, h.sound_lazy, h.resolver_eager, h.resolver_lazy, h.missing,
        h.supplied, h.registered⟩⟩
    | some text =>
      obtain ⟨program, hprogram, heager⟩ := h.supplied name text hsupply
      have hsound : (lazy.ask name).Sound := h.sound_lazy
      rw [Engine.loadPartial_of_registered heager,
        Engine.loadPartial_of_supplied h.sound_lazy hlazy h.resolver_lazy hsupply hprogram]
      refine ⟨rfl, h.sound_eager, hsound.compile name .standard text, h.resolver_eager, ?_,
        h.missing, h.supplied, fun other program' hother => ?_⟩
      · exact ((lazy.ask name).compile_keeps name .standard text).2.trans h.resolver_lazy
      · rw [Dict.get?_insert] at hother
        split at hother
        · rename_i hname
          cases hother
          rw [← hname, heager]
        · exact h.registered other program' hother

/-! ### Computations -/

/-- In engines that agree and in the same frame, the computation has the same result and leaves
engines that agree and the same frame. -/
def Alike (supply : Resolver) (x : Render α) : Prop :=
  ∀ ⦃eager lazy : Engine⦄, Agree supply eager lazy → ∀ frame, ∃ result after eager' lazy',
    (x.run.run ⟨eager, frame⟩).run = (result, ⟨eager', after⟩) ∧
      (x.run.run ⟨lazy, frame⟩).run = (result, ⟨lazy', after⟩) ∧ Agree supply eager' lazy'

/-- **What is made of the steps of rendering is alike.** -/
theorem Stepwise.alike {x : Render α} (h : Stepwise x) : Alike supply x :=
  h.sideBySide (fun _ _ h => h.compile templateName .standard) (fun _ _ h => h.loadPartial)

/-- **A program is rendered alike** in engines that agree, however deep programs enter each
other. -/
theorem alike_render (depth : Nat) (program : Program) : Alike supply (program.render depth) :=
  (stepwise_render depth program).alike

/-! ### Partials put at hand -/

/-- Each text is a template. -/
def AllTemplates (texts : Dict String String) : Prop :=
  ∀ name text, texts.get? name = some text → ∃ tokens, parse .standard text.toList = .ok tokens

/-- Registering templates under different names leaves each name with its program, and the other
names with what they had. -/
theorem exists_installTexts {texts : Dict String String} (hkeys : texts.keys.Nodup)
    (htexts : AllTemplates texts) {e : Engine} (h : e.Sound) :
    ∃ after : Engine, e.installTexts texts = (.ok (), after) ∧ after.Sound ∧
      after.resolver = e.resolver ∧
      (∀ name, texts.get? name = none → after.partials.get? name = e.partials.get? name) ∧
      ∀ name text, texts.get? name = some text → ∃ program,
        compile name .standard text = .ok program ∧ after.partials.get? name = some program := by
  induction texts generalizing e with
  | nil => exact ⟨e, rfl, h, rfl, fun _ _ => rfl, fun _ _ hnone => by cases hnone⟩
  | cons entry texts ih =>
    obtain ⟨key, text⟩ := entry
    have hnew : Dict.get? texts key = none := Dict.get?_eq_none (List.nodup_cons.1 hkeys).1
    have hget : ∀ name, Dict.get? ((key, text) :: texts) name =
        if key = name then some text else Dict.get? texts name := fun _ => rfl
    have hrest : AllTemplates texts := fun name text' hname => by
      refine htexts name text' ?_
      rw [hget, if_neg, hname]
      rintro rfl
      rw [hnew] at hname
      cases hname
    obtain ⟨tokens, htokens⟩ := htexts key text (by rw [hget, if_pos rfl])
    have hprogram : compile key .standard text = .ok _ := compile_eq_ok_iff.2 ⟨tokens, htokens, rfl⟩
    obtain ⟨first, hfirst, hsound, hresolver, hpartials⟩ :=
      e.exists_compilePartial key .standard text h hprogram
    obtain ⟨after, hafter, hsound', hresolver', hothers, hprograms⟩ :=
      ih (List.nodup_cons.1 hkeys).2 hrest hsound
    refine ⟨after, ?_, hsound', hresolver'.trans hresolver, fun name hname => ?_,
      fun name text' hname => ?_⟩
    · rw [Engine.installTexts, hfirst]
      exact hafter
    · rw [hget] at hname
      split at hname
      · cases hname
      · rename_i hne
        rw [hothers name hname, hpartials, Dict.get?_insert, if_neg hne]
    · rw [hget] at hname
      split at hname
      · rename_i heq
        cases hname
        subst heq
        refine ⟨_, hprogram, ?_⟩
        rw [hothers key hnew, hpartials, Dict.get?_insert, if_pos rfl]
      · exact hprograms name text' hname

/-- **Registering texts leaves an engine that agrees with one that asks for them.** -/
theorem exists_agree_installTexts {texts : Dict String String} (hkeys : texts.keys.Nodup)
    (htexts : AllTemplates texts) {e : Engine} (h : e.Sound) (hpartials : e.partials = [])
    (hresolver : e.resolver = none) :
    ∃ after : Engine, e.install (.named texts) = (.ok (), after) ∧
      Agree texts.get? after { e with resolver := some texts.get? } := by
  obtain ⟨after, hafter, hsound, hresolver', hothers, hprograms⟩ :=
    exists_installTexts hkeys htexts h
  refine ⟨after, hafter, hsound, h, hresolver'.trans hresolver, rfl, fun name hname => ?_,
    hprograms, fun name program hname => ?_⟩
  · rw [hothers name hname, hpartials, Dict.get?_nil]
  · rw [hpartials] at hname
    cases hname

/-- The text of a template over a view, with partials put at hand after the template is compiled,
where programs enter each other at most `depth` deep. -/
def Engine.renderWithin (depth : Nat) (e : Engine) (d : Delimiters) (text : String) (view : Value)
    (partials : Partials) : Except Stop String :=
  match e.compile templateName d text with
  | (.error error, _) => .error (.fault error)
  | (.ok program, e) =>
    match e.install partials with
    | (.error error, _) => .error (.fault error)
    | (.ok (), e) => ((program.render depth).run.run ⟨e, .root view⟩).run.1

/-- Rendering goes as deep as the limit allows. -/
theorem Engine.renderWith_eq (e : Engine) (d : Delimiters) (text : String) (view : Value)
    (partials : Partials) :
    (e.renderWith d text view partials).1 = e.renderWithin depthLimit d text view partials := by
  unfold renderWith renderWithin
  split
  · rename_i program e' hcompile
    rw [hcompile]
    unfold runWith
    dsimp only
    split
    · rename_i e'' hinstall
      rw [hinstall]
      rfl
    · rename_i error e'' hinstall
      rw [hinstall]
  · rename_i error e' hcompile
    rw [hcompile]

/-- **Partials given as texts and partials asked for give the same text** or the same fault, over
any view and however deep programs enter each other: from the template, from one another, in
sections, or from templates that lambdas render. -/
theorem renderWith_named_eq_resolver {texts : Dict String String} (hkeys : texts.keys.Nodup)
    (htexts : AllTemplates texts) (d : Delimiters) (template : String) (view : Value) :
    (∀ depth, Engine.empty.renderWithin depth d template view (.named texts) =
        Engine.empty.renderWithin depth d template view (.resolver texts.get?)) ∧
      (Engine.empty.renderWith d template view (.named texts)).1 =
        (Engine.empty.renderWith d template view (.resolver texts.get?)).1 := by
  have hall : ∀ depth, Engine.empty.renderWithin depth d template view (.named texts) =
      Engine.empty.renderWithin depth d template view (.resolver texts.get?) := by
    intro depth
    have hsound := Engine.sound_empty.compile templateName d template
    obtain ⟨hpartials, hresolver⟩ := Engine.empty.compile_keeps templateName d template
    unfold Engine.renderWithin
    split
    · rfl
    · rename_i program e hcompile
      rw [hcompile] at hsound hpartials hresolver
      dsimp only at hsound hpartials hresolver
      obtain ⟨after, hafter, hagree⟩ := exists_agree_installTexts hkeys htexts hsound hpartials
        hresolver
      obtain ⟨result, frame, eager, lazy, heager, hlazy, -⟩ :=
        alike_render depth program hagree (.root view)
      have hasking : e.install (.resolver texts.get?) =
          (.ok (), { e with resolver := some texts.get? }) := rfl
      rw [hafter, hasking]
      dsimp only
      rw [heager, hlazy]
  exact ⟨hall, by rw [Engine.renderWith_eq, Engine.renderWith_eq, hall]⟩

/-- A dish with what comes with it. -/
def menu : Dict String String :=
  [("dish", "\x7b\x7bname\x7d\x7d" ++
      "\x7b\x7b#with\x7d\x7d and \x7b\x7b>dish\x7d\x7d\x7b\x7b/with\x7d\x7d"),
    ("bill", "\x7b\x7b>dish\x7d\x7d\x7b\x7b>tip\x7d\x7d")]

/-- Soup and bread, with a lambda that renders the bill. -/
def meal : Value :=
  .object [("name", .string "Soup"),
    ("with", .array [.object [("name", .string "bread"), ("with", .bool false)]]),
    ("pay", .lambda 0 (.render (.const (.string "\x7b\x7b>bill\x7d\x7d")) "" "."))]

theorem allTemplates_menu : AllTemplates menu := by
  intro name text hname
  have hparse : (parse .standard text.toList).isOk = true := by
    simp only [menu, Dict.get?] at hname
    split at hname
    · cases hname
      decide +kernel
    · split at hname
      · cases hname
        decide +kernel
      · cases hname
  cases htokens : parse .standard text.toList with
  | ok tokens => exact ⟨tokens, rfl⟩
  | error fault =>
    rw [htokens] at hparse
    cases hparse

/-- A template with a partial of its own and one that the lambda of the view brings in. -/
def order : String := "\x7b\x7b>dish\x7d\x7d; \x7b\x7bpay\x7d\x7d"

theorem renderWith_menu :
    menu.keys.Nodup ∧ AllTemplates menu ∧
      (Engine.empty.renderWithin 5 .standard order meal (.named menu)).toOption =
        some "Soup and bread; Soup and bread." ∧
      (Engine.empty.renderWithin 5 .standard order meal (.resolver menu.get?)).toOption =
        some "Soup and bread; Soup and bread." := by
  have hkeys : menu.keys.Nodup := by decide
  have hnamed : (Engine.empty.renderWithin 5 .standard order meal (.named menu)).toOption =
      some "Soup and bread; Soup and bread." := by decide +kernel
  have hsame := (renderWith_named_eq_resolver hkeys allTemplates_menu .standard order meal).1 5
  refine ⟨hkeys, allTemplates_menu, hnamed, ?_⟩
  rw [← hsame]
  exact hnamed

end LiveTable.Template
