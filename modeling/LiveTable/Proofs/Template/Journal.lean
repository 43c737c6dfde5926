import LiveTable.Proofs.Template.Compiling
import LiveTable.Proofs.Template.Stepwise
import Mathlib.Data.List.Dedup

/-!
# Journals of engines

Whatever is asked of an engine, by its owner, a template, a lambda or a partial, comes down to a
list of calls. What the engine keeps is told by that list.

* `Deed`: a call on an engine;
* `Engine.after e deeds`: the engine after calls;
* `Deed.note`, `compiledSince deeds`: the templates compiled since the last clearing;
* `Engine.compile_cases`: what compiling a text can come to;
* `Engine.Coherent e keys`: the engine keeps the programs of `keys`, each once, and no others;
* `Coherent.after`: it does after any calls;
* `compile_of_error`, `compilePartial_of_error`: a text that is no template changes nothing;
* `Does x s deeds`: the calls that a computation makes in a scene;
* `Stepwise.exists_does`: rendering makes calls;
* `Does.engine_eq`: and does nothing else to the engine.
-/

namespace LiveTable.Template

/-- A call on an engine. -/
inductive Deed where
  /-- A text is compiled, or found among the programs at hand. -/
  | compile (name : String) (d : Delimiters) (text : String)
  /-- A text is compiled and registered as a partial. -/
  | register (name : String) (d : Delimiters) (text : String)
  /-- The resolver is asked for a partial. -/
  | ask (name : String)
  /-- A resolver is put in place. -/
  | supply (r : Resolver)
  | clear

/-- The templates compiled since the last clearing, one more call on. -/
def Deed.note (keys : List (Delimiters × String)) : Deed → List (Delimiters × String)
  | compile name d text | register name d text =>
    if (Template.compile name d text).isOk then keys ++ [(d, text)] else keys
  | ask _ | supply _ => keys
  | clear => []

/-- The templates compiled since the last clearing, with the delimiters in force at their start, as
often as they were. -/
def compiledSince (deeds : List Deed) : List (Delimiters × String) := deeds.foldl Deed.note []

theorem Deed.note_compile_of_ok {keys : List (Delimiters × String)} {name : String}
    {d : Delimiters} {text : String} {program : Program}
    (h : Template.compile name d text = .ok program) :
    (Deed.compile name d text).note keys = keys ++ [(d, text)] := by
  rw [note, h]
  rfl

theorem Deed.note_compile_of_error {keys : List (Delimiters × String)} {name : String}
    {d : Delimiters} {text : String} {fault : SyntaxError}
    (h : Template.compile name d text = .error fault) :
    (Deed.compile name d text).note keys = keys := by
  rw [note, h]
  rfl

namespace Engine

/-- The engine after a call. -/
def did (e : Engine) : Deed → Engine
  | .compile name d text => (e.compile name d text).2
  | .register name d text => (e.compilePartial name d text).2
  | .ask name => e.ask name
  | .supply r => { e with resolver := some r }
  | .clear => e.clear

/-- The engine after calls. -/
def after (e : Engine) (deeds : List Deed) : Engine := deeds.foldl did e

@[simp] theorem after_nil (e : Engine) : e.after [] = e := rfl

@[simp] theorem after_cons (e : Engine) (deed : Deed) (deeds : List Deed) :
    e.after (deed :: deeds) = (e.did deed).after deeds := rfl

theorem after_append (e : Engine) (a b : List Deed) : e.after (a ++ b) = (e.after a).after b := by
  simp only [after, List.foldl_append]

/-! ### What an engine keeps -/

/-- The engine keeps the programs of the given templates, each once, and no others. -/
structure Coherent (e : Engine) (keys : List (Delimiters × String)) : Prop where
  sound : e.Sound
  nodup : e.programs.keys.Nodup
  mem_keys : ∀ key, key ∈ e.programs.keys ↔ key ∈ keys

theorem coherent_empty : empty.Coherent [] :=
  ⟨sound_empty, List.nodup_nil, fun _ => Iff.rfl⟩

variable {e : Engine} {keys : List (Delimiters × String)}

/-- Only the programs matter. -/
theorem Coherent.of_programs (h : e.Coherent keys) {e' : Engine}
    (hprograms : e'.programs = e.programs) : e'.Coherent keys where
  sound := by
    unfold Sound
    rw [hprograms]
    exact h.sound
  nodup := by rw [hprograms]; exact h.nodup
  mem_keys := by rw [hprograms]; exact h.mem_keys

/-- Compiling finds a program at hand, makes one and keeps it, or meets a fault. -/
theorem compile_cases (e : Engine) (name : String) (d : Delimiters) (text : String) :
    (∃ program, e.programs.get? (d, text) = some program ∧
        e.compile name d text = (.ok program, e)) ∨
      (∃ program, Template.compile name d text = .ok program ∧
        e.compile name d text =
          (.ok program, { e with programs := e.programs.insert (d, text) program })) ∨
      ∃ fault, Template.compile name d text = .error fault ∧
        e.compile name d text = (.error fault, e) := by
  unfold compile
  cases e.programs.get? (d, text) with
  | some program => exact .inl ⟨program, rfl, rfl⟩
  | none =>
    cases Template.compile name d text with
    | ok program => exact .inr (.inl ⟨program, rfl, rfl⟩)
    | error fault => exact .inr (.inr ⟨fault, rfl, rfl⟩)

/-- **Compiling a template keeps its program**, if it is not kept already. -/
theorem Coherent.compile (h : e.Coherent keys) (name : String) (d : Delimiters) (text : String) :
    (e.compile name d text).2.Coherent ((Deed.compile name d text).note keys) := by
  have hsound := h.sound.compile name d text
  rcases e.compile_cases name d text with ⟨program, hfound, hsame⟩ | ⟨program, hprogram, hsame⟩ |
    ⟨fault, hfault, hsame⟩
  · -- The program is kept already, so the text is one of the templates.
    have hprogram := compile_eq_ok_of_name name (h.sound d text program hfound)
    have hmem : (d, text) ∈ keys := (h.mem_keys _).1 (Dict.mem_keys_of_get? hfound)
    rw [hsame, Deed.note_compile_of_ok hprogram]
    refine ⟨h.sound, h.nodup, fun key => ?_⟩
    rw [h.mem_keys, List.mem_append, List.mem_singleton]
    exact ⟨.inl, fun hkey => hkey.elim id fun heq => heq ▸ hmem⟩
  · rw [hsame] at hsound ⊢
    rw [Deed.note_compile_of_ok hprogram]
    refine ⟨hsound, Dict.nodup_keys_insert h.nodup _ _, fun key => ?_⟩
    rw [Dict.mem_keys_insert, h.mem_keys, List.mem_append, List.mem_singleton]
  · rw [hsame, Deed.note_compile_of_error hfault]
    exact h

theorem programs_compilePartial (e : Engine) (name : String) (d : Delimiters) (text : String) :
    (e.compilePartial name d text).2.programs = (e.compile name d text).2.programs := by
  unfold compilePartial
  split <;> simp [*]

/-- **After any call the engine keeps the programs that it should.** -/
theorem Coherent.did (h : e.Coherent keys) (deed : Deed) :
    (e.did deed).Coherent (deed.note keys) := by
  cases deed with
  | compile name d text => exact h.compile name d text
  | register name d text =>
    exact (h.compile name d text).of_programs (e.programs_compilePartial name d text)
  | ask name => exact h.of_programs rfl
  | supply r => exact h.of_programs rfl
  | clear => exact coherent_empty.of_programs rfl

theorem Coherent.after (h : e.Coherent keys) (deeds : List Deed) :
    (e.after deeds).Coherent (deeds.foldl Deed.note keys) := by
  induction deeds generalizing e keys with
  | nil => exact h
  | cons deed deeds ih => exact ih (h.did deed)

/-- **The number of programs at hand is the number of different templates compiled.** -/
theorem Coherent.size_eq (h : e.Coherent keys) : e.size = keys.dedup.length := by
  have hperm : e.programs.keys.Perm keys.dedup :=
    (List.perm_ext_iff_of_nodup h.nodup (List.nodup_dedup keys)).2 fun key => by
      rw [h.mem_keys, List.mem_dedup]
  rw [← hperm.length_eq, Dict.keys, List.length_map, size]

/-! ### Texts that are no templates -/

theorem compile_of_error {name : String} {d : Delimiters} {text : String} {fault : SyntaxError}
    (h : (e.compile name d text).1 = .error fault) : (e.compile name d text).2 = e := by
  rcases e.compile_cases name d text with ⟨program, -, hsame⟩ | ⟨program, -, hsame⟩ |
    ⟨fault', -, hsame⟩
  · rw [hsame]
  · rw [hsame] at h
    cases h
  · rw [hsame]

theorem compilePartial_fst (e : Engine) (name : String) (d : Delimiters) (text : String) :
    (e.compilePartial name d text).1 = (e.compile name d text).1 := by
  unfold compilePartial
  split <;> simp [*]

theorem compilePartial_of_error {name : String} {d : Delimiters} {text : String}
    {fault : SyntaxError} (h : (e.compilePartial name d text).1 = .error fault) :
    (e.compilePartial name d text).2 = e := by
  have hcompile := (e.compilePartial_fst name d text).symm.trans h
  have hsame := compile_of_error hcompile
  unfold compilePartial
  split
  · rename_i program e' heq
    rw [heq] at hcompile
    cases hcompile
  · rename_i fault' e' heq
    rw [heq] at hsame
    exact hsame

/-! ### Calls in a scene -/

/-- The calls that fetch a partial: none if it is registered or nobody supplies partials. -/
def fetching (e : Engine) (name : String) : List Deed :=
  match e.partials.get? name, e.resolver with
  | some _, _ => []
  | none, none => []
  | none, some resolver =>
    match resolver name with
    | none => [.ask name]
    | some text => [.ask name, .register name .standard text]

theorem loadPartial_snd (e : Engine) (name : String) :
    (e.loadPartial name).2 = e.after (e.fetching name) := by
  cases hpartial : e.partials.get? name with
  | some program =>
    rw [loadPartial_of_registered hpartial]
    simp only [fetching, hpartial, after_nil]
  | none =>
    cases hresolver : e.resolver with
    | none =>
      rw [loadPartial_of_missing hpartial hresolver]
      simp only [fetching, hpartial, hresolver, after_nil]
    | some resolver =>
      cases hr : resolver name with
      | none =>
        rw [loadPartial_of_unsupplied hpartial hresolver hr]
        simp only [fetching, hpartial, hresolver, hr, after_cons, after_nil, did]
      | some text =>
        simp only [loadPartial, fetching, hpartial, hresolver, hr, after_cons, after_nil, did, ask]
        split <;> simp [*]

end Engine

/-- The calls that a computation makes in a scene, in order. -/
inductive Does : {α : Type} → Render α → Scene → List Deed → Prop where
  | pure {α : Type} (a : α) (s : Scene) : Does (pure a : Render α) s []
  | tooDeep {α : Type} (s : Scene) : Does (throw .tooDeep : Render α) s []
  | bind {α β : Type} {x : Render α} {f : α → Render β} {s next : Scene} {a : α}
      {first rest : List Deed} : Does x s first → (x.run.run s).run = (.ok a, next) →
      Does (f a) next rest → Does (x >>= f) s (first ++ rest)
  | bindStop {α β : Type} {x : Render α} {f : α → Render β} {s next : Scene} {stop : Stop}
      {first : List Deed} : Does x s first → (x.run.run s).run = (.error stop, next) →
      Does (x >>= f) s first
  | view (s : Scene) : Does (do pure (← get).frame.view) s []
  | lookup (name : String) (s : Scene) : Does (Render.lookup name) s []
  | within {α : Type} (view : Value) {body : Render α} {s : Scene} {deeds : List Deed} :
      Does body { s with frame := s.frame.push view } deeds →
      Does (Render.within view body) s deeds
  | attempt {α : Type} {body : Render α} {s : Scene} {deeds : List Deed} :
      Does body s deeds → Does (Render.attempt body) s deeds
  | compile (text : String) (s : Scene) :
      Does (Render.onEngine (·.compile templateName .standard text)) s
        [.compile templateName .standard text]
  | loadPartial (name : String) (s : Scene) :
      Does (Render.onEngine (·.loadPartial name)) s (s.engine.fetching name)

/-- **Calls are all that a computation does to the engine.** -/
theorem Does.engine_eq {x : Render α} {s : Scene} {deeds : List Deed} (h : Does x s deeds) :
    ((x.run.run s).run.2).engine = s.engine.after deeds := by
  induction h with
  | pure | tooDeep | view | lookup => rfl
  | bind _ hrun _ ihx ihf =>
    rw [hrun] at ihx
    rw [Render.run_bind, hrun, Engine.after_append, ← ihx, ← ihf]
  | bindStop _ hrun ihx =>
    rw [hrun] at ihx
    rw [Render.run_bind, hrun, ← ihx]
  | within view _ ih => rw [Render.run_within, ih]
  | attempt _ ih =>
    rw [Render.run_attempt, ← ih]
    split <;> simp [*]
  | compile text s => rfl
  | loadPartial name s => exact s.engine.loadPartial_snd name

/-- **Everything that is made of the steps of rendering makes calls.** -/
theorem Stepwise.exists_does {x : Render α} (h : Stepwise x) (s : Scene) :
    ∃ deeds, Does x s deeds := by
  induction h generalizing s with
  | pure a => exact ⟨_, .pure a s⟩
  | tooDeep => exact ⟨_, .tooDeep s⟩
  | @bind α β x f _ _ ihx ihf =>
    obtain ⟨first, hfirst⟩ := ihx s
    rcases hrun : (x.run.run s).run with ⟨stop | a, next⟩
    · exact ⟨first, .bindStop hfirst hrun⟩
    · obtain ⟨rest, hrest⟩ := ihf a next
      exact ⟨first ++ rest, .bind hfirst hrun hrest⟩
  | view => exact ⟨_, .view s⟩
  | lookup name => exact ⟨_, .lookup name s⟩
  | within view _ ih =>
    obtain ⟨deeds, hdeeds⟩ := ih _
    exact ⟨deeds, .within view hdeeds⟩
  | attempt _ ih =>
    obtain ⟨deeds, hdeeds⟩ := ih s
    exact ⟨deeds, .attempt hdeeds⟩
  | compile text => exact ⟨_, .compile text s⟩
  | loadPartial name => exact ⟨_, .loadPartial name s⟩

end LiveTable.Template
