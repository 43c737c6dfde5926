import LiveTable.Text.Blank
import Mathlib.Data.List.Forall2

/-!
# Parts of a text

Splitting a text and trimming it have inverses: joining parts that are free of the separator, and
putting blanks around a text that has none at its ends.

* `splitWhere_eq_splitOnP`: parts are split as the library splits lists;
* `splitAt_eq_iff`: a text has the parts that make it when they are joined, if these are free of the
  separator;
* `Padded word s`: the text `s` is a word with blanks around it;
* `trim_eq_iff`: trimming gives the word;
* `IsWord separator word`: a text that can stand between separators with blanks around it;
* `map_trim_splitAt_eq_iff`: which texts are such words, padded and joined.
-/

namespace LiveTable.Text

/-! ### Splitting -/

theorem splitWhere_eq_splitOnP (p : Char → Bool) (cs : List Char) :
    splitWhere p cs = cs.splitOnP p := by
  induction cs with
  | nil => rfl
  | cons c cs ih =>
    rw [splitWhere, List.splitOnP_cons_eq_if_modifyHead, ih]
    cases hparts : cs.splitOnP p with
    | nil => exact absurd hparts (List.splitOnP_ne_nil p cs)
    | cons part parts => rfl

/-- No part has a character that splits. -/
theorem forall_mem_of_mem_splitWhere {p : Char → Bool} {cs part : List Char}
    (h : part ∈ splitWhere p cs) : ∀ c ∈ part, p c = false := by
  induction cs generalizing part with
  | nil =>
    rw [splitWhere, List.mem_singleton] at h
    intro c hc
    rw [h] at hc
    exact absurd hc List.not_mem_nil
  | cons d cs ih =>
    rw [splitWhere] at h
    split at h
    · rcases List.mem_cons.1 h with rfl | hmem
      · intro c hc
        exact absurd hc List.not_mem_nil
      · exact ih hmem
    · next hd =>
      split at h
      · next hparts =>
        rw [List.mem_singleton] at h
        intro c hc
        rw [h, List.mem_singleton] at hc
        rw [hc]
        exact eq_false_of_ne_true hd
      · next first parts hparts =>
        rcases List.mem_cons.1 h with rfl | hmem
        · intro c hc
          rcases List.mem_cons.1 hc with rfl | hfirst
          · exact eq_false_of_ne_true hd
          · exact ih (by rw [hparts]; exact List.mem_cons_self) c hfirst
        · exact ih (by rw [hparts]; exact List.mem_cons_of_mem first hmem)

/-- **The parts of a text** are those that make it when they are joined by the separator and that
are free of it. -/
theorem splitAt_eq_iff {separator : Char} {s : String} {parts : List String} :
    splitAt separator s = parts ↔
      parts ≠ [] ∧ (∀ part ∈ parts, separator ∉ part.toList) ∧
        s.toList = [separator].intercalate (parts.map String.toList) := by
  have hsplit : splitWhere (· == separator) s.toList = s.toList.splitOn separator := by
    rw [splitWhere_eq_splitOnP, List.splitOn_eq_splitOnP]
  constructor
  · rintro rfl
    refine ⟨?_, ?_, ?_⟩
    · rw [splitAt, hsplit, ne_eq, List.map_eq_nil_iff]
      exact List.splitOn_ne_nil separator s.toList
    · intro part hpart hmem
      obtain ⟨cs, hcs, rfl⟩ := List.mem_map.1 hpart
      rw [String.toList_ofList] at hmem
      simpa using forall_mem_of_mem_splitWhere hcs separator hmem
    · have hid : String.toList ∘ String.ofList = id := funext fun _ => String.toList_ofList
      rw [splitAt, hsplit, List.map_map, hid, List.map_id, List.intercalate_splitOn]
  · rintro ⟨hne, hfree, hs⟩
    have hparts : s.toList.splitOn separator = parts.map String.toList := by
      rw [hs]
      refine List.splitOn_intercalate separator ?_ (mt List.map_eq_nil_iff.1 hne)
      intro cs hcs
      obtain ⟨part, hpart, rfl⟩ := List.mem_map.1 hcs
      exact hfree part hpart
    have hid : String.ofList ∘ String.toList = id := funext fun _ => String.ofList_toList
    rw [splitAt, hsplit, hparts, List.map_map, hid, List.map_id]

/-! ### Trimming -/

/-- The text has no blank at either end. -/
structure Tight (cs : List Char) : Prop where
  head : ∀ c ∈ cs.head?, isBlank c = false
  last : ∀ c ∈ cs.getLast?, isBlank c = false

theorem tight_iff {cs : List Char} :
    cs.head?.any isBlank = false ∧ cs.getLast?.any isBlank = false ↔ Tight cs := by
  rw [Option.any_eq_false, Option.any_eq_false]
  exact ⟨fun h => ⟨h.1, h.2⟩, fun h => ⟨h.head, h.last⟩⟩

instance (cs : List Char) : Decidable (Tight cs) := decidable_of_iff _ tight_iff

/-- What is left when the trailing blanks are gone does not end in a blank. -/
theorem getLast?_trimEnd (cs : List Char) : ∀ c ∈ (trimEnd cs).getLast?, isBlank c = false := by
  induction cs with
  | nil => simp [trimEnd]
  | cons d cs ih =>
    rw [trimEnd_cons]
    split
    · simp
    · next h =>
      intro c hc
      cases hrest : trimEnd cs with
      | nil =>
        rw [hrest, List.getLast?_singleton, Option.mem_some] at hc
        rw [← hc]
        exact eq_false_of_ne_true fun hblank => h ⟨hrest, hblank⟩
      | cons e rest =>
        rw [hrest, List.getLast?_cons_cons, ← hrest] at hc
        exact ih c hc

/-- Characters without the last blanks still start as they did, if any are left. -/
theorem head?_trimEnd {cs : List Char} {c : Char} (h : c ∈ (trimEnd cs).head?) : c ∈ cs.head? := by
  cases cs with
  | nil => exact h
  | cons d cs =>
    rw [trimEnd_cons] at h
    split at h
    · cases h
    · exact h

theorem tight_trimChars (cs : List Char) : Tight (trimChars cs) where
  head c hc := by
    have hstart : c ∈ (cs.dropWhile isBlank).head? := head?_trimEnd hc
    have hnot := List.head?_dropWhile_not isBlank cs
    rw [Option.mem_def] at hstart
    rw [hstart] at hnot
    simpa using hnot
  last := getLast?_trimEnd _

/-- Blanks around a text without blanks at its ends are trimmed away. -/
theorem trimChars_of_tight {before word after : List Char}
    (hbefore : ∀ c ∈ before, isBlank c = true) (hafter : ∀ c ∈ after, isBlank c = true)
    (hword : Tight word) : trimChars (before ++ word ++ after) = word := by
  have hstart : trimStart (before ++ word ++ after) = trimStart (word ++ after) := by
    rw [trimStart, List.append_assoc, List.dropWhile_append_of_pos hbefore]
    rfl
  rw [trimChars, hstart]
  cases word with
  | nil =>
    have hblank : trimStart (after ++ []) = [] := List.dropWhile_append_of_pos hafter
    rw [List.nil_append, ← List.append_nil after, hblank]
    rfl
  | cons c word =>
    have hc : ¬ isBlank c = true := by simp [hword.head c rfl]
    rw [trimStart, List.cons_append, List.dropWhile_cons_of_neg hc, ← List.cons_append,
      trimEnd_append_of_blank _ hafter, trimEnd_of_getLast? hword.last]

/-- The text `s` is a word with blanks around it. -/
def Padded (word s : String) : Prop :=
  ∃ before after, s.toList = before ++ word.toList ++ after ∧
    (∀ c ∈ before, isBlank c = true) ∧ ∀ c ∈ after, isBlank c = true

theorem padded_self (word : String) : Padded word word :=
  ⟨[], [], by simp, by simp, by simp⟩

/-- A text is what is left of it when it is trimmed, with blanks around. -/
theorem padded_trim (s : String) : Padded (trim s) s := by
  obtain ⟨after, hsplit, hafter⟩ := exists_trimEnd_append (trimStart s.toList)
  refine ⟨s.toList.takeWhile isBlank, after, ?_, List.all_eq_true.1 List.all_takeWhile,
    hafter⟩
  rw [trim, String.toList_ofList, trimChars, List.append_assoc, ← hsplit]
  exact List.takeWhile_append_dropWhile.symm

/-- **Trimming gives the word** that a text has blanks around. -/
theorem trim_eq_iff {word s : String} : trim s = word ↔ Tight word.toList ∧ Padded word s := by
  constructor
  · rintro rfl
    refine ⟨?_, padded_trim s⟩
    rw [trim, String.toList_ofList]
    exact tight_trimChars s.toList
  · rintro ⟨htight, before, after, hs, hbefore, hafter⟩
    rw [trim, hs, trimChars_of_tight hbefore hafter htight, String.ofList_toList]

/-! ### Words between separators -/

/-- A text that can stand between separators with blanks around it. -/
structure IsWord (separator : Char) (word : String) : Prop where
  tight : Tight word.toList
  free : separator ∉ word.toList

/-- Blanks around a word bring in no separator. -/
theorem Padded.free_iff {separator : Char} {word s : String} (h : Padded word s)
    (hblank : isBlank separator = false) : separator ∉ s.toList ↔ separator ∉ word.toList := by
  obtain ⟨before, after, hs, hbefore, hafter⟩ := h
  have hnone : ∀ cs : List Char, (∀ c ∈ cs, isBlank c = true) → separator ∉ cs := by
    intro cs hcs hmem
    rw [hcs separator hmem] at hblank
    cases hblank
  simp [hs, hnone before hbefore, hnone after hafter]

theorem map_trim_eq_of_padded {words parts : List String}
    (hwords : ∀ word ∈ words, Tight word.toList) (h : List.Forall₂ Padded words parts) :
    parts.map trim = words := by
  induction h with
  | nil => rfl
  | @cons word part words parts hpart _ ih =>
    rw [List.map_cons, trim_eq_iff.2 ⟨hwords word List.mem_cons_self, hpart⟩,
      ih fun other hother => hwords other (List.mem_cons_of_mem word hother)]

/-- **The trimmed parts of a text** are the words that make it when blanks are put around them and
they are joined. -/
theorem map_trim_splitAt_eq_iff {separator : Char} (hblank : isBlank separator = false) {s : String}
    {words : List String} : (splitAt separator s).map trim = words ↔
      words ≠ [] ∧ (∀ word ∈ words, IsWord separator word) ∧
        ∃ parts, List.Forall₂ Padded words parts ∧
          s = (String.singleton separator).intercalate parts := by
  constructor
  · rintro rfl
    obtain ⟨hne, hfree, hs⟩ := splitAt_eq_iff.1 (Eq.refl (splitAt separator s))
    refine ⟨mt List.map_eq_nil_iff.1 hne, ?_, splitAt separator s, ?_, ?_⟩
    · intro word hword
      obtain ⟨part, hpart, rfl⟩ := List.mem_map.1 hword
      exact ⟨(trim_eq_iff.1 rfl).1, ((padded_trim part).free_iff hblank).1 (hfree part hpart)⟩
    · exact List.forall₂_map_left_iff.2 (List.forall₂_same.2 fun part _ => padded_trim part)
    · rw [← String.toList_inj, String.toList_intercalate, String.toList_singleton]
      exact hs
  · rintro ⟨hne, hwords, parts, hparts, rfl⟩
    have hmap : parts.map trim = words :=
      map_trim_eq_of_padded (fun word hword => (hwords word hword).tight) hparts
    have hsplit : splitAt separator ((String.singleton separator).intercalate parts) = parts := by
      refine splitAt_eq_iff.2 ⟨?_, ?_, ?_⟩
      · rintro rfl
        exact hne hmap.symm
      · intro part hpart
        have hword : trim part ∈ words := hmap ▸ List.mem_map_of_mem hpart
        exact ((padded_trim part).free_iff hblank).2 (hwords _ hword).free
      · rw [String.toList_intercalate, String.toList_singleton]
    rw [hsplit, hmap]

end LiveTable.Text
