import LiveTable.Text.Blank

/-!
# Delimiters

A tag stands between an opening and a closing delimiter, `\x7b\x7b` and `\x7d\x7d` unless a
template says otherwise.

* `isDelimiter s`: `s` can delimit a tag;
* `Delimiters`: a pair of delimiters;
* `Delimiters.standard`: the pair in force at the start of a template;
* `Delimiters.of?`: the pair of two given texts;
* `Delimiters.read?`: the pair written by two words.
-/

namespace LiveTable.Template

/-- A delimiter is not empty and holds no blank. -/
def isDelimiter (s : String) : Bool := !s.toList.isEmpty && s.toList.all (!Text.isBlank ·)

/-- A pair of delimiters. -/
structure Delimiters where
  opening : String
  closing : String
  isDelimiter_opening : isDelimiter opening = true
  isDelimiter_closing : isDelimiter closing = true
  deriving DecidableEq

namespace Delimiters

/-- Double braces. -/
def standard : Delimiters := ⟨"\x7b\x7b", "\x7d\x7d", by decide, by decide⟩

/-- The pair of two texts, if both can delimit a tag. -/
def of? (opening closing : String) : Option Delimiters :=
  if h : isDelimiter opening = true ∧ isDelimiter closing = true then
    some ⟨opening, closing, h.1, h.2⟩
  else none

/-- The pair written by a text of exactly two words. -/
def read? (text : List Char) : Option Delimiters :=
  match Text.words text with
  | [opening, closing] => of? (String.ofList opening) (String.ofList closing)
  | _ => none

/-- The pair as two words. -/
def text (d : Delimiters) : String := d.opening ++ " " ++ d.closing

theorem opening_ne_nil (d : Delimiters) : d.opening.toList ≠ [] := by
  have h := d.isDelimiter_opening
  intro hn
  simp [isDelimiter, hn] at h

theorem closing_ne_nil (d : Delimiters) : d.closing.toList ≠ [] := by
  have h := d.isDelimiter_closing
  intro hn
  simp [isDelimiter, hn] at h

/-- No character of an opening delimiter is blank. -/
theorem not_isBlank_of_mem_opening (d : Delimiters) {c : Char} (hc : c ∈ d.opening.toList) :
    Text.isBlank c = false := by
  have h := d.isDelimiter_opening
  simp only [isDelimiter, Bool.and_eq_true, List.all_eq_true] at h
  simpa using h.2 c hc

/-- No character of a closing delimiter is blank. -/
theorem not_isBlank_of_mem_closing (d : Delimiters) {c : Char} (hc : c ∈ d.closing.toList) :
    Text.isBlank c = false := by
  have h := d.isDelimiter_closing
  simp only [isDelimiter, Bool.and_eq_true, List.all_eq_true] at h
  simpa using h.2 c hc

theorem toList_text (d : Delimiters) :
    d.text.toList = d.opening.toList ++ ' ' :: d.closing.toList := by simp [text]

/-- The two words of a pair are read as the pair. -/
theorem read?_text (d : Delimiters) : read? d.text.toList = some d := by
  have hopening : ∀ c ∈ d.opening.toList, Text.isBlank c = false :=
    fun _ => d.not_isBlank_of_mem_opening
  have hclosing : ∀ c ∈ d.closing.toList, Text.isBlank c = false :=
    fun _ => d.not_isBlank_of_mem_closing
  have hwords : Text.words d.text.toList = [d.opening.toList, d.closing.toList] := by
    rw [Text.words, toList_text, Text.splitWhere_append_cons _ hopening (by decide),
      Text.splitWhere_of_forall hclosing]
    simp [d.opening_ne_nil, d.closing_ne_nil]
  rw [read?, hwords]
  simp only [String.ofList_toList, of?]
  rw [dif_pos ⟨d.isDelimiter_opening, d.isDelimiter_closing⟩]

end Delimiters

end LiveTable.Template
