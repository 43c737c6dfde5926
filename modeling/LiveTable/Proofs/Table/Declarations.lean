import LiveTable.Proofs.Text.Parts
import LiveTable.Table.SortSpec

/-!
# Sort declarations

A declaration names a field, and after colons it may say in which direction and how the column is
compared. Blanks may stand around each of the three.

* `IsField field`: a name that a declaration can give to its field;
* `Words words spec`: the words that stand for a column;
* `Declares declaration spec`: the declaration has such words, with blanks around them;
* `SortSpec.ofParts?_eq_some_iff`: which words are taken for a column;
* `SortSpec.read_eq_ok_iff`: reading finds out what a declaration says;
* `SortSpec.declares_text_iff`: what is written for a column declares it if its field has a name;
* `SortSpec.read_declarations`: reading and writing, for every text and every column.
-/

namespace LiveTable.Table

/-- A name that a declaration can give to its field: not empty, without blanks at its ends, and
without a colon. -/
structure IsField (field : String) : Prop extends Text.IsWord ':' field where
  ne_empty : field ≠ ""

/-- The words for a direction; the empty one stands for the ascending direction. -/
inductive DirectionWord : String → Direction → Prop
  | empty : DirectionWord "" .ascending
  | asc : DirectionWord "asc" .ascending
  | desc : DirectionWord "desc" .descending

/-- The words for a comparison; the empty one stands for that of texts. -/
inductive ComparisonWord : String → Comparison → Prop
  | empty : ComparisonWord "" .text
  | string : ComparisonWord "string" .text
  | number : ComparisonWord "number" .number

/-- The words that stand for a column: its field, and then, if they are given, its direction and its
comparison. -/
inductive Words : List String → SortSpec → Prop
  | field (field : String) : Words [field] ⟨field, .ascending, .text⟩
  | direction (field : String) {second : String} {direction : Direction}
    (hsecond : DirectionWord second direction) : Words [field, second] ⟨field, direction, .text⟩
  | comparison (field : String) {second third : String} {direction : Direction}
    {comparison : Comparison} (hsecond : DirectionWord second direction)
    (hthird : ComparisonWord third comparison) :
    Words [field, second, third] ⟨field, direction, comparison⟩

/-- What a declaration says: it has the words that stand for a column, each with blanks around it,
and colons between them. -/
def Declares (declaration : String) (spec : SortSpec) : Prop :=
  IsField spec.field ∧ ∃ words parts, Words words spec ∧
    List.Forall₂ Text.Padded words parts ∧ declaration = ":".intercalate parts

/-! ### Words -/

theorem DirectionWord.isWord {word : String} {direction : Direction}
    (h : DirectionWord word direction) : Text.IsWord ':' word := by
  cases h <;> exact ⟨by decide, by decide⟩

theorem ComparisonWord.isWord {word : String} {comparison : Comparison}
    (h : ComparisonWord word comparison) : Text.IsWord ':' word := by
  cases h <;> exact ⟨by decide, by decide⟩

namespace Words

variable {words : List String} {spec : SortSpec}

theorem ne_nil (h : Words words spec) : words ≠ [] := by
  cases h <;> exact List.cons_ne_nil _ _

theorem field_mem (h : Words words spec) : spec.field ∈ words := by
  cases h <;> exact List.mem_cons_self

theorem isWord (h : Words words spec) (hfield : IsField spec.field) :
    ∀ word ∈ words, Text.IsWord ':' word := by
  cases h with
  | field => simpa using hfield.toIsWord
  | direction _ hsecond => simpa using ⟨hfield.toIsWord, hsecond.isWord⟩
  | comparison _ hsecond hthird =>
    simpa using ⟨hfield.toIsWord, hsecond.isWord, hthird.isWord⟩

end Words

namespace SortSpec

theorem readDirection?_eq_some_iff {word : String} {direction : Direction} :
    readDirection? word = some direction ↔ DirectionWord word direction := by
  constructor
  · intro h
    unfold readDirection? at h
    split at h <;> cases h
    · exact .empty
    · exact .asc
    · exact .desc
  · intro h
    cases h <;> rfl

theorem readComparison?_eq_some_iff {word : String} {comparison : Comparison} :
    readComparison? word = some comparison ↔ ComparisonWord word comparison := by
  constructor
  · intro h
    unfold readComparison? at h
    split at h <;> cases h
    · exact .empty
    · exact .string
    · exact .number
  · intro h
    cases h <;> rfl

/-- **Which words are taken for a column.** -/
theorem ofParts?_eq_some_iff {words : List String} {spec : SortSpec} :
    ofParts? words = some spec ↔ spec.field ≠ "" ∧ Words words spec := by
  constructor
  · intro h
    unfold ofParts? at h
    split at h
    · split at h
      · cases h
      · next hne =>
        cases h
        exact ⟨hne, .field _⟩
    · split at h
      · cases h
      · next hne =>
        simp only [Option.bind_eq_bind, Option.bind_eq_some_iff] at h
        obtain ⟨direction, hsecond, h⟩ := h
        cases h
        exact ⟨hne, .direction _ (readDirection?_eq_some_iff.1 hsecond)⟩
    · split at h
      · cases h
      · next hne =>
        simp only [Option.bind_eq_bind, Option.bind_eq_some_iff] at h
        obtain ⟨direction, hsecond, comparison, hthird, h⟩ := h
        cases h
        exact ⟨hne, .comparison _ (readDirection?_eq_some_iff.1 hsecond)
          (readComparison?_eq_some_iff.1 hthird)⟩
    · cases h
  · rintro ⟨hne, h⟩
    cases h with
    | field field => simp [ofParts?, hne]
    | direction field hsecond => simp [ofParts?, hne, readDirection?_eq_some_iff.2 hsecond]
    | comparison field hsecond hthird =>
      simp [ofParts?, hne, readDirection?_eq_some_iff.2 hsecond,
        readComparison?_eq_some_iff.2 hthird]

/-- The parts of a declaration without the blanks around them. -/
theorem map_trim_parts_iff {declaration : String} {words : List String} :
    (Text.splitAt ':' declaration).map Text.trim = words ↔
      words ≠ [] ∧ (∀ word ∈ words, Text.IsWord ':' word) ∧
        ∃ parts, List.Forall₂ Text.Padded words parts ∧ declaration = ":".intercalate parts :=
  Text.map_trim_splitAt_eq_iff (by decide)

/-- **Reading finds out what a declaration says.** -/
theorem read_eq_ok_iff {declaration : String} {spec : SortSpec} :
    read declaration = .ok spec ↔ Declares declaration spec := by
  have hread : read declaration = .ok spec ↔
      ofParts? ((Text.splitAt ':' declaration).map Text.trim) = some spec := by
    unfold read
    split <;> simp [*]
  rw [hread]
  constructor
  · intro h
    obtain ⟨hne, hwords⟩ := ofParts?_eq_some_iff.1 h
    obtain ⟨-, hplain, parts, hparts, hjoin⟩ := map_trim_parts_iff.1 (Eq.refl
      ((Text.splitAt ':' declaration).map Text.trim))
    exact ⟨⟨hplain _ hwords.field_mem, hne⟩, _, parts, hwords, hparts, hjoin⟩
  · rintro ⟨hfield, words, parts, hwords, hparts, hjoin⟩
    rw [map_trim_parts_iff.2 ⟨hwords.ne_nil, hwords.isWord hfield, parts, hparts, hjoin⟩]
    exact ofParts?_eq_some_iff.2 ⟨hfield.ne_empty, hwords⟩

theorem read_eq_error {declaration : String} (h : ∀ spec, ¬Declares declaration spec) :
    read declaration = .error (.sortDeclaration declaration) := by
  unfold read
  split
  · next spec hspec =>
    refine absurd (read_eq_ok_iff.1 ?_) (h spec)
    rw [read, hspec]
  · rfl

/-! ### What is written for a column -/

theorem directionWord_word (direction : Direction) : DirectionWord direction.word direction := by
  cases direction with
  | ascending => exact .asc
  | descending => exact .desc

theorem comparisonWord_word (comparison : Comparison) :
    ComparisonWord comparison.word comparison := by
  cases comparison with
  | text => exact .string
  | number => exact .number

/-- **What is written for a column declares it** if its field has a name that a declaration can
give. -/
theorem declares_text_iff {spec : SortSpec} : Declares spec.text spec ↔ IsField spec.field := by
  constructor
  · exact And.left
  · intro hfield
    refine ⟨hfield, [spec.field, spec.direction.word, spec.comparison.word],
      [spec.field, spec.direction.word, spec.comparison.word], ?_, ?_, rfl⟩
    · exact .comparison _ (directionWord_word _) (comparisonWord_word _)
    · exact List.forall₂_same.2 fun word _ => Text.padded_self word

/-- **Reading and writing declarations.** A text is read as a column exactly if it says so, and is
refused, with itself in the fault, if it says nothing. What is written for a column that was read is
read as the same column, and so is what is written for any column whose field has a name that a
declaration can give, but for no other one. -/
theorem read_declarations :
    (∀ declaration spec, read declaration = .ok spec ↔ Declares declaration spec) ∧
      (∀ declaration, (∀ spec, ¬Declares declaration spec) →
        read declaration = .error (.sortDeclaration declaration)) ∧
      (∀ declaration spec, read declaration = .ok spec → read spec.text = .ok spec) ∧
      ∀ spec : SortSpec, read spec.text = .ok spec ↔ IsField spec.field := by
  refine ⟨fun declaration spec => read_eq_ok_iff, fun declaration => read_eq_error, ?_, ?_⟩
  · intro declaration spec h
    have hfield : IsField spec.field := (read_eq_ok_iff.1 h).1
    exact read_eq_ok_iff.2 (declares_text_iff.2 hfield)
  · intro spec
    rw [read_eq_ok_iff, declares_text_iff]

end SortSpec

end LiveTable.Table
