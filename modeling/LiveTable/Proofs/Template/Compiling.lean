import LiveTable.Template.Engine

/-!
# Programs at hand

An engine compiles a text once. What it keeps is what compiling gives, so nobody can tell from a
program whether it was at hand before.

* `compile_eq_ok_iff`: a text that is a template has one program, whatever name it goes by;
* `Engine.Sound e`: every program that the engine keeps is the one of its text;
* `Engine.compile_eq`: compiling with such an engine is compiling without one;
* `Engine.Sound.compile`: and it leaves such an engine;
* `Engine.compilePartial_eq`, `Engine.exists_compilePartial`: what registering a template does;
* `Engine.loadPartial_of_registered`, …: where a partial comes from;
* `Engine.Peers e e'`: the engines differ in nothing but what they keep, and so they stay.
-/

namespace LiveTable.Template

/-- The program of a text does not depend on the name under which faults in it are reported. -/
theorem compile_eq_ok_iff {name : String} {d : Delimiters} {text : String} {program : Program} :
    compile name d text = .ok program ↔
      ∃ tokens, parse d text.toList = .ok tokens ∧
        Program.ofTokens text.toList tokens = program := by
  unfold compile
  cases parse d text.toList with
  | ok tokens => simp
  | error fault => simp

theorem compile_eq_ok_of_name {name : String} (other : String) {d : Delimiters} {text : String}
    {program : Program} (h : compile name d text = .ok program) :
    compile other d text = .ok program :=
  compile_eq_ok_iff.2 (compile_eq_ok_iff.1 h)

namespace Engine

/-- Every program that the engine keeps is the one of its text. -/
def Sound (e : Engine) : Prop :=
  ∀ d text program, e.programs.get? (d, text) = some program →
    Template.compile templateName d text = .ok program

theorem sound_empty : empty.Sound := fun _ _ _ h => by simp [empty] at h

variable (e : Engine) (name : String) (d : Delimiters) (text : String)

/-- **What an engine keeps does not show**: it compiles a text as if it had not seen it before. -/
theorem compile_eq (h : e.Sound) : (e.compile name d text).1 = Template.compile name d text := by
  unfold compile
  split
  · rename_i program hfound
    exact (compile_eq_ok_of_name name (h d text program hfound)).symm
  · split <;> simp [*]

/-- Compiling leaves an engine with the same partials and the same resolver. -/
theorem compile_keeps : (e.compile name d text).2.partials = e.partials ∧
    (e.compile name d text).2.resolver = e.resolver := by
  unfold compile
  split
  · exact ⟨rfl, rfl⟩
  · split <;> exact ⟨rfl, rfl⟩

theorem Sound.compile {e : Engine} (h : e.Sound) : (e.compile name d text).2.Sound := by
  unfold Engine.compile
  split
  · exact h
  · split
    · rename_i program hprogram
      intro d' text' program' hfound
      rw [Dict.get?_insert] at hfound
      split at hfound
      · rename_i hkey
        cases hkey
        cases hfound
        exact compile_eq_ok_of_name templateName hprogram
      · exact h d' text' program' hfound
    · exact h

/-- A template is registered under its name, and nothing else is. -/
theorem compilePartial_eq (h : e.Sound) {program : Program}
    (hprogram : Template.compile name d text = .ok program) :
    e.compilePartial name d text =
      (.ok program, { (e.compile name d text).2 with
        partials := e.partials.insert name program }) := by
  have hresult := (e.compile_eq name d text h).trans hprogram
  have hpartials := (e.compile_keeps name d text).1
  unfold compilePartial
  split
  · rename_i program' e' hcompile
    rw [hcompile] at hresult hpartials ⊢
    cases hresult
    rw [← hpartials]
  · rename_i fault e' hcompile
    rw [hcompile] at hresult
    cases hresult

/-- What registering a template leaves. -/
theorem exists_compilePartial (h : e.Sound) {program : Program}
    (hprogram : Template.compile name d text = .ok program) :
    ∃ after : Engine, e.compilePartial name d text = (.ok program, after) ∧ after.Sound ∧
      after.resolver = e.resolver ∧ after.partials = e.partials.insert name program :=
  ⟨_, e.compilePartial_eq name d text h hprogram, h.compile name d text,
    (e.compile_keeps name d text).2, rfl⟩

/-! ### Partials -/

theorem loadPartial_of_registered {e : Engine} {name : String} {program : Program}
    (h : e.partials.get? name = some program) : e.loadPartial name = (.ok (some program), e) := by
  simp only [loadPartial, h]

/-- Without a resolver nobody is asked. -/
theorem loadPartial_of_missing {e : Engine} {name : String} (h : e.partials.get? name = none)
    (hresolver : e.resolver = none) : e.loadPartial name = (.ok none, e) := by
  simp only [loadPartial, h, hresolver]

/-- The engine after it has asked for a partial. -/
def ask (e : Engine) (name : String) : Engine := { e with asked := e.asked ++ [name] }

theorem loadPartial_of_unsupplied {e : Engine} {name : String} {r : Resolver}
    (h : e.partials.get? name = none) (hresolver : e.resolver = some r) (hr : r name = none) :
    e.loadPartial name = (.ok none, e.ask name) := by
  simp only [loadPartial, ask, h, hresolver, hr]

/-- A template that is supplied is compiled and registered. -/
theorem loadPartial_of_supplied {e : Engine} {name text : String} {r : Resolver}
    {program : Program} (hsound : e.Sound) (h : e.partials.get? name = none)
    (hresolver : e.resolver = some r) (hr : r name = some text)
    (hprogram : Template.compile name .standard text = .ok program) :
    e.loadPartial name =
      (.ok (some program), { ((e.ask name).compile name .standard text).2 with
        partials := e.partials.insert name program }) := by
  have hasked : (e.ask name).Sound := hsound
  have heq := (e.ask name).compilePartial_eq name .standard text hasked hprogram
  obtain ⟨programs, partials, resolver, asked⟩ := e
  obtain rfl : resolver = some r := hresolver
  simp only [ask] at heq h ⊢
  simp only [loadPartial, h, hr, heq]

/-! ### Engines that keep different programs -/

/-- The engines have the same partials and the same resolver, and what they keep is sound. -/
structure Peers (e e' : Engine) : Prop where
  sound : e.Sound
  sound' : e'.Sound
  partials : e.partials = e'.partials
  resolver : e.resolver = e'.resolver

variable {e e' : Engine}

/-- An engine that has compiled a text differs in nothing else. -/
theorem Sound.peers_compile (h : e.Sound) (name : String) (d : Delimiters) (text : String) :
    Peers (e.compile name d text).2 e where
  sound := h.compile name d text
  sound' := h
  partials := (e.compile_keeps name d text).1
  resolver := (e.compile_keeps name d text).2

namespace Peers

theorem compile (h : Peers e e') (name : String) (d : Delimiters) (text : String) :
    (e.compile name d text).1 = (e'.compile name d text).1 ∧
      Peers (e.compile name d text).2 (e'.compile name d text).2 := by
  obtain ⟨hpartials, hresolver⟩ := e.compile_keeps name d text
  obtain ⟨hpartials', hresolver'⟩ := e'.compile_keeps name d text
  refine ⟨?_, h.sound.compile name d text, h.sound'.compile name d text, ?_, ?_⟩
  · rw [e.compile_eq name d text h.sound, e'.compile_eq name d text h.sound']
  · rw [hpartials, hpartials', h.partials]
  · rw [hresolver, hresolver', h.resolver]

theorem compilePartial (h : Peers e e') (name : String) (d : Delimiters) (text : String) :
    (e.compilePartial name d text).1 = (e'.compilePartial name d text).1 ∧
      Peers (e.compilePartial name d text).2 (e'.compilePartial name d text).2 := by
  obtain ⟨hresult, hpeers⟩ := h.compile name d text
  unfold Engine.compilePartial
  generalize e.compile name d text = r at hresult hpeers
  generalize e'.compile name d text = r' at hresult hpeers
  obtain ⟨result, after⟩ := r
  obtain ⟨result', after'⟩ := r'
  obtain rfl : result = result' := hresult
  cases result with
  | error fault => exact ⟨rfl, hpeers⟩
  | ok program =>
    refine ⟨rfl, hpeers.sound, hpeers.sound', ?_, hpeers.resolver⟩
    exact congrArg (Dict.insert · name program) hpeers.partials

theorem ask (h : Peers e e') (name : String) : Peers (e.ask name) (e'.ask name) :=
  ⟨h.sound, h.sound', h.partials, h.resolver⟩

/-- A partial is the same program in both engines. -/
theorem loadPartial (h : Peers e e') (name : String) :
    (e.loadPartial name).1 = (e'.loadPartial name).1 ∧
      Peers (e.loadPartial name).2 (e'.loadPartial name).2 := by
  cases hpartial : e.partials.get? name with
  | some program =>
    rw [loadPartial_of_registered hpartial, loadPartial_of_registered (h.partials ▸ hpartial)]
    exact ⟨rfl, h⟩
  | none =>
    have hpartial' : e'.partials.get? name = none := h.partials ▸ hpartial
    cases hresolver : e.resolver with
    | none =>
      rw [loadPartial_of_missing hpartial hresolver,
        loadPartial_of_missing hpartial' (h.resolver ▸ hresolver)]
      exact ⟨rfl, h⟩
    | some r =>
      have hresolver' : e'.resolver = some r := h.resolver ▸ hresolver
      cases hr : r name with
      | none =>
        rw [loadPartial_of_unsupplied hpartial hresolver hr,
          loadPartial_of_unsupplied hpartial' hresolver' hr]
        exact ⟨rfl, h.ask name⟩
      | some text =>
        obtain ⟨hresult, hpeers⟩ := (h.ask name).compilePartial name .standard text
        simp only [Engine.loadPartial, hpartial, hresolver, hpartial', hresolver', hr]
        simp only [Engine.ask, hresolver, hresolver'] at hresult hpeers
        generalize Engine.compilePartial _ name .standard text = r at hresult hpeers ⊢
        generalize Engine.compilePartial _ name .standard text = r' at hresult hpeers ⊢
        obtain ⟨result, after⟩ := r
        obtain ⟨result', after'⟩ := r'
        obtain rfl : result = result' := hresult
        cases result with
        | error fault => exact ⟨rfl, hpeers⟩
        | ok program => exact ⟨rfl, hpeers⟩

end Peers

end Engine

end LiveTable.Template
