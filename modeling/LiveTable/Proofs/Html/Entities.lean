import LiveTable.Html.Escape

/-!
# What escaping leaves

An escaped text has none of the characters that could end it where it stands, and an ampersand in it
is never one of the text's own: it starts an entity.

* `markup`: the characters other than the ampersand that an entity stands for;
* `not_mem_escapeChars`: an escaped text has none of them;
* `EntitiesOnly cs`: every ampersand starts an entity;
* `EntitiesOnly.append`: texts side by side do not spoil each other's entities;
* `entitiesOnly_escapeChars`: in an escaped text every ampersand starts an entity.
-/

namespace LiveTable.Html

theorem toList_escape (s : String) : (escape s).toList = escapeChars s.toList :=
  String.toList_ofList

/-- The characters other than the ampersand with a meaning in HTML. -/
def markup : List Char := ['<', '>', '"', '\'', '/']

/-- An entity begins with its only ampersand and holds no markup. -/
theorem exists_of_entity? {c : Char} {entity : List Char} (h : entity? c = some entity) :
    ∃ tail, entity = '&' :: tail ∧ '&' ∉ tail ∧ ∀ x ∈ markup, x ∉ entity := by
  unfold entity? at h
  split at h <;> cases h <;> exact ⟨_, rfl, by simp, by simp [markup]⟩

theorem not_mem_escapeChar {x : Char} (hx : x ∈ markup) (c : Char) : x ∉ escapeChar c := by
  unfold escapeChar
  cases hentity : entity? c with
  | some entity =>
    obtain ⟨tail, -, -, hnone⟩ := exists_of_entity? hentity
    exact hnone x hx
  | none =>
    rw [Option.getD_none, List.mem_singleton]
    rintro rfl
    have hsome : ∀ x ∈ markup, entity? x ≠ none := by simp [markup, entity?]
    exact hsome x hx hentity

/-- **An escaped text has no markup.** -/
theorem not_mem_escapeChars {x : Char} (hx : x ∈ markup) (cs : List Char) :
    x ∉ escapeChars cs := fun hmem =>
  have ⟨c, _, hc⟩ := List.mem_flatMap.1 hmem
  not_mem_escapeChar hx c hc

/-- Every ampersand starts an entity. -/
def EntitiesOnly (cs : List Char) : Prop :=
  ∀ before rest, cs = before ++ '&' :: rest →
    ∃ c entity, entity? c = some entity ∧ entity <+: '&' :: rest

theorem entitiesOnly_of_not_mem {cs : List Char} (h : '&' ∉ cs) : EntitiesOnly cs := by
  rintro before rest rfl
  exact absurd (List.mem_append_right before List.mem_cons_self) h

theorem EntitiesOnly.append {a b : List Char} (ha : EntitiesOnly a) (hb : EntitiesOnly b) :
    EntitiesOnly (a ++ b) := by
  intro before rest hsplit
  rcases List.append_eq_append_iff.1 hsplit with ⟨mid, rfl, hmid⟩ | ⟨mid, rfl, hmid⟩
  · exact hb mid rest hmid
  · cases mid with
    | nil => exact hb [] rest hmid.symm
    | cons x mid =>
      -- The ampersand is in the first text, and so is its entity.
      obtain ⟨rfl, rfl⟩ := List.cons.inj hmid
      obtain ⟨c, entity, hentity, hprefix⟩ := ha before mid rfl
      exact ⟨c, entity, hentity, hprefix.trans (List.prefix_append ('&' :: mid) b)⟩

theorem entitiesOnly_escapeChar (c : Char) : EntitiesOnly (escapeChar c) := by
  unfold escapeChar
  cases hentity : entity? c with
  | some entity =>
    obtain ⟨tail, rfl, htail, -⟩ := exists_of_entity? hentity
    intro before rest hsplit
    cases before with
    | nil =>
      obtain rfl : tail = rest := (List.cons.inj hsplit).2
      exact ⟨c, _, hentity, List.prefix_rfl⟩
    | cons x before =>
      obtain rfl : tail = before ++ '&' :: rest := (List.cons.inj hsplit).2
      exact absurd (List.mem_append_right before List.mem_cons_self) htail
  | none =>
    refine entitiesOnly_of_not_mem fun hmem => ?_
    obtain rfl : '&' = c := List.mem_singleton.1 hmem
    cases hentity

/-- **In an escaped text every ampersand starts an entity.** -/
theorem entitiesOnly_escapeChars (cs : List Char) : EntitiesOnly (escapeChars cs) := by
  induction cs with
  | nil => exact entitiesOnly_of_not_mem List.not_mem_nil
  | cons c cs ih =>
    rw [escapeChars_cons]
    exact (entitiesOnly_escapeChar c).append ih

end LiveTable.Html
