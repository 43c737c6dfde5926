import LiveTable.Proofs.Template.Settling
import LiveTable.Proofs.Text.Parts

/-!
# Printing

A tree of tokens can be written in many ways: each tag with blanks around its value, and an
unescaped name in braces or behind an ampersand. Parsing undoes all of them.

* `Tree`, `Token.bare`: a tree of tokens without places;
* `Padding`, `LoneTag`, `Spelling`: a list of trees with the way in which each tag is written;
* `Spelling.trees`: the trees that are written;
* `printTag`, `Spelling.print`: the text, with the delimiters in force at each tag;
* `Spelling.Fits`: no text, name or remark looks like something else;
* `Spelling.runs`: the runs of the text;
* `parse_print`: the tree of the text is the one that was written.
-/

namespace LiveTable.Template

/-! ### Trees without places -/

/-- A part of a template without its place. -/
inductive Tree where
  | leaf (leaf : Leaf)
  | block (inverted : Bool) (name : String) (children : List Tree)

mutual

/-- The token without its place. -/
def Token.bare : Token → Tree
  | .leaf leaf _ => .leaf leaf
  | .block inverted name _ children _ => .block inverted name (bares children)

/-- The tokens without their places. -/
def bares : List Token → List Tree
  | [] => []
  | token :: tokens => token.bare :: bares tokens

end

/-! ### Tags in print -/

/-- The character of a sigil. -/
def Sigil.char : Sigil → Char
  | .opening => '#'
  | .inverted => '^'
  | .closing => '/'
  | .partialRef => '>'
  | .braced => '\x7b'
  | .unescaped => '&'
  | .delimiters => '='
  | .comment => '!'

@[simp] theorem Sigil.ofChar?_char (s : Sigil) : ofChar? s.char = some s := by
  cases s <;> rfl

/-- The blanks around the value of a tag. -/
structure Padding where
  before : List Char
  after : List Char
  all_isBlank_before : before.all Text.isBlank = true
  all_isBlank_after : after.all Text.isBlank = true

/-- No blanks. -/
def Padding.none : Padding := ⟨[], [], rfl, rfl⟩

theorem Padding.isBlank_before (pad : Padding) : ∀ c ∈ pad.before, Text.isBlank c = true :=
  List.all_eq_true.1 pad.all_isBlank_before

theorem Padding.isBlank_after (pad : Padding) : ∀ c ∈ pad.after, Text.isBlank c = true :=
  List.all_eq_true.1 pad.all_isBlank_after

/-- What stands between the value of a tag and its closing delimiter. -/
def terminator : Option Sigil → List Char
  | some .braced => ['\x7d']
  | some .delimiters => ['=']
  | _ => []

/-- The text of a tag. -/
def printTag (d : Delimiters) (sigil : Option Sigil) (pad : Padding) (value : List Char) :
    List Char :=
  d.opening.toList ++ ((sigil.map Sigil.char).toList ++ (pad.before ++ value ++ pad.after) ++
    (terminator sigil ++ d.closing.toList))

/-- A tag that is no tag of a section, in the form in which it is written. -/
inductive LoneTag where
  | escaped (name : String)
  | raw (name : String) (braced : Bool)
  | partialRef (name : String)
  | comment (s : String)
  | delimiters (d : Delimiters)

namespace LoneTag

/-- What the tag is. -/
def leaf : LoneTag → Leaf
  | escaped name => .escaped name
  | raw name _ => .raw name
  | partialRef name => .partialRef name
  | comment s => .comment s
  | delimiters d => .delimiters d

def sigil : LoneTag → Option Sigil
  | escaped _ => none
  | raw _ true => some .braced
  | raw _ false => some .unescaped
  | partialRef _ => some .partialRef
  | comment _ => some .comment
  | delimiters _ => some .delimiters

/-- What stands between the blanks. -/
def value : LoneTag → List Char
  | escaped name | raw name _ | partialRef name => name.toList
  | comment s => s.toList
  | delimiters d => d.text.toList

/-- The text of the tag. -/
def print (d : Delimiters) (t : LoneTag) (pad : Padding) : List Char :=
  printTag d t.sigil pad t.value

/-- The delimiters in force after the tag. -/
def after (d : Delimiters) : LoneTag → Delimiters
  | delimiters d' => d'
  | _ => d

end LoneTag

/-- The opening tag of a section. -/
def printOpening (d : Delimiters) (inverted : Bool) (name : String) (pad : Padding) : List Char :=
  printTag d (some (if inverted then .inverted else .opening)) pad name.toList

/-- The closing tag of a section. -/
def printClosing (d : Delimiters) (name : String) (pad : Padding) : List Char :=
  printTag d (some .closing) pad name.toList

/-! ### Spellings -/

/-- A list of trees with the way in which each tag is written. -/
inductive Spelling where
  | done
  | text (s : String) (rest : Spelling)
  | tag (t : LoneTag) (pad : Padding) (rest : Spelling)
  /-- A section, with the blanks in its opening tag and in its closing tag. -/
  | block (inverted : Bool) (name : String) (pad : Padding) (children : Spelling)
      (closePad : Padding) (rest : Spelling)

namespace Spelling

/-- The trees that are written. -/
def trees : Spelling → List Tree
  | done => []
  | text s rest => .leaf (.text s) :: rest.trees
  | tag t _ rest => .leaf t.leaf :: rest.trees
  | block inverted name _ children _ rest => .block inverted name children.trees :: rest.trees

/-- The delimiters in force at the end, `d` being in force at the start. -/
def after (d : Delimiters) : Spelling → Delimiters
  | done => d
  | text _ rest => rest.after d
  | tag t _ rest => rest.after (t.after d)
  | block _ _ _ children _ rest => rest.after (children.after d)

/-- The text, with the delimiters in force at each tag. -/
def print (d : Delimiters) : Spelling → List Char
  | done => []
  | text s rest => s.toList ++ rest.print d
  | tag t pad rest => t.print d pad ++ rest.print (t.after d)
  | block inverted name pad children closePad rest =>
    printOpening d inverted name pad ++ (children.print d ++
      (printClosing (children.after d) name closePad ++ rest.print (children.after d)))

end Spelling

/-- The list of trees without blanks in its tags. -/
def Spelling.plain : List Tree → Spelling
  | [] => .done
  | .leaf (.text s) :: more => .text s (plain more)
  | .leaf (.comment s) :: more => .tag (.comment s) .none (plain more)
  | .leaf (.escaped name) :: more => .tag (.escaped name) .none (plain more)
  | .leaf (.raw name) :: more => .tag (.raw name false) .none (plain more)
  | .leaf (.partialRef name) :: more => .tag (.partialRef name) .none (plain more)
  | .leaf (.delimiters d) :: more => .tag (.delimiters d) .none (plain more)
  | .block inverted name children :: more =>
    .block inverted name .none (plain children) .none (plain more)

/-- Every list of trees has a spelling. -/
theorem Spelling.trees_plain (trees : List Tree) : (plain trees).trees = trees := by
  fun_induction plain trees <;> simp_all [Spelling.trees, LoneTag.leaf]

/-! ### What can be printed -/

/-- The text has no blank at either end. -/
def Trimmed (cs : List Char) : Prop :=
  (∀ c ∈ cs.head?, Text.isBlank c = false) ∧ ∀ c ∈ cs.getLast?, Text.isBlank c = false

/-- The text can stand in a tag: it has no blank at either end and is free of the character with
which the closing delimiter starts. -/
def Holds (d : Delimiters) (s : String) : Prop :=
  Trimmed s.toList ∧ ∀ c ∈ s.toList, d.closing.toList.head? ≠ some c

/-- What the tag writes reads as what it is. -/
def LoneTag.Fits (d : Delimiters) : LoneTag → Prop
  | escaped name => Holds d name ∧ name ≠ "" ∧ name.toList.head?.bind Sigil.ofChar? = none
  | raw name braced => Holds d name ∧ (braced = true → '\x7d' ∉ name.toList)
  | partialRef name => Holds d name
  | comment s => Holds d s
  | delimiters d' => '=' ∉ d'.opening.toList ∧ '=' ∉ d'.closing.toList

namespace Spelling

/-- The spelling starts with a text. -/
def startsWithText : Spelling → Bool
  | text _ _ => true
  | _ => false

/-- What is written reads as what it is, with the delimiters in force: a text is not empty, does
not follow a text, and is free of line breaks and of the character with which the opening delimiter
starts. -/
def Fits (d : Delimiters) : Spelling → Prop
  | done => True
  | text s rest =>
    s ≠ "" ∧ (∀ c ∈ s.toList, c ≠ '\n' ∧ d.opening.toList.head? ≠ some c) ∧
      rest.startsWithText = false ∧ rest.Fits d
  | tag t _ rest => t.Fits d ∧ rest.Fits (t.after d)
  | block _ name _ children _ rest =>
    Holds d name ∧ children.Fits d ∧ Holds (children.after d) name ∧
      rest.Fits (children.after d)

end Spelling

section Decidable

theorem trimmed_iff {cs : List Char} :
    cs.head?.any Text.isBlank = false ∧ cs.getLast?.any Text.isBlank = false ↔ Trimmed cs := by
  unfold Trimmed
  cases cs.head? <;> cases cs.getLast? <;> simp

instance (cs : List Char) : Decidable (Trimmed cs) :=
  decidable_of_iff _ trimmed_iff

instance (d : Delimiters) (s : String) : Decidable (Holds d s) :=
  have : Decidable (∀ c ∈ s.toList, d.closing.toList.head? ≠ some c) := List.decidableBAll _ _
  inferInstanceAs (Decidable (_ ∧ _))

instance (d : Delimiters) : (t : LoneTag) → Decidable (t.Fits d)
  | .escaped _ => inferInstanceAs (Decidable (_ ∧ _ ∧ _))
  | .raw _ _ => inferInstanceAs (Decidable (_ ∧ (_ → _)))
  | .partialRef name => inferInstanceAs (Decidable (Holds d name))
  | .comment s => inferInstanceAs (Decidable (Holds d s))
  | .delimiters _ => inferInstanceAs (Decidable (_ ∧ _))

/-- Whether a spelling fits can be told by looking at it. -/
def Spelling.decidableFits (d : Delimiters) : (w : Spelling) → Decidable (w.Fits d)
  | .done => .isTrue trivial
  | .text s rest =>
    have := rest.decidableFits d
    have : Decidable (∀ c ∈ s.toList, c ≠ '\n' ∧ d.opening.toList.head? ≠ some c) :=
      List.decidableBAll _ _
    inferInstanceAs (Decidable (_ ∧ _ ∧ _ ∧ _))
  | .tag t _ rest =>
    have := rest.decidableFits (t.after d)
    inferInstanceAs (Decidable (_ ∧ _))
  | .block _ _ _ children _ rest =>
    have := children.decidableFits d
    have := rest.decidableFits (children.after d)
    inferInstanceAs (Decidable (_ ∧ _ ∧ _ ∧ _))

instance (d : Delimiters) (w : Spelling) : Decidable (w.Fits d) := w.decidableFits d

end Decidable

/-! ### Reading a printed tag -/

/-- A literal is found at its first character, if the text before it is free of that. -/
theorem before?_append {literal before : List Char} (rest : List Char) (hne : literal ≠ [])
    (h : ∀ c ∈ before, literal.head? ≠ some c) :
    before? literal (before ++ (literal ++ rest)) = some (before, rest) := by
  obtain ⟨l, literal, rfl⟩ := List.exists_cons_of_ne_nil hne
  induction before with
  | nil =>
    rw [List.nil_append, List.cons_append, before?, ← List.cons_append, isPrefixOf?_append]
  | cons c before ih =>
    have hc : (l == c) = false := by simpa using h c List.mem_cons_self
    rw [List.cons_append, before?, List.isPrefixOf?, hc, ih fun d hd => h d (by simp [hd])]
    rfl

/-- Blanks around a text without blanks at its ends are trimmed away. -/
theorem trimChars_padded {pad : Padding} {value : List Char} (h : Trimmed value) :
    Text.trimChars (pad.before ++ value ++ pad.after) = value :=
  Text.trimChars_of_tight pad.isBlank_before pad.isBlank_after ⟨h.1, h.2⟩

/-- No sigil is blank. -/
theorem Sigil.ofChar?_of_blank {c : Char} (h : Text.isBlank c = true) : ofChar? c = none := by
  unfold ofChar?
  split <;> first | rfl | cases h

/-- What ends the value of a tag, the closing delimiter included. -/
theorem head?_terminator_append (d : Delimiters) (sigil : Option Sigil) :
    ∃ c, (terminator sigil ++ d.closing.toList).head? = some c ∧ Text.isBlank c = false := by
  obtain ⟨c, closing, hclosing⟩ := List.exists_cons_of_ne_nil d.closing_ne_nil
  have hc : Text.isBlank c = false := d.not_isBlank_of_mem_closing (by simp [hclosing])
  unfold terminator
  split
  · exact ⟨_, rfl, by decide⟩
  · exact ⟨_, rfl, by decide⟩
  · exact ⟨c, by rw [hclosing]; rfl, hc⟩

/-- The value of a tag ends where its end is first met. -/
theorem takeValue?_append_end {d : Delimiters} {sigil : Option Sigil} {cs : List Char}
    (rest : List Char) (h : ∀ c ∈ cs, (terminator sigil ++ d.closing.toList).head? ≠ some c) :
    ∃ written, Tag.takeValue? d sigil (cs ++ (terminator sigil ++ d.closing.toList ++ rest)) =
      some (cs, written, rest) := by
  unfold Tag.takeValue?
  split
  · have hequals := before?_append (d.closing.toList ++ rest) (List.cons_ne_nil '=' []) h
    have hclosing : before? d.closing.toList (d.closing.toList ++ rest) = some ([], rest) :=
      @before?_append _ [] rest d.closing_ne_nil nofun
    simp only [terminator, List.append_assoc, hequals, hclosing, Option.bind_eq_bind,
      Option.bind_some]
    exact ⟨_, rfl⟩
  · have hbrace := before?_append rest (List.cons_ne_nil '\x7d' d.closing.toList) h
    simp only [terminator, List.cons_append, List.nil_append] at hbrace ⊢
    simp only [hbrace, Option.bind_eq_bind, Option.bind_some]
    exact ⟨_, rfl⟩
  · have hnone : terminator sigil = [] := by
      unfold terminator
      split <;> simp_all
    rw [hnone, List.nil_append] at h ⊢
    simp only [before?_append rest d.closing_ne_nil h, Option.bind_eq_bind, Option.bind_some]
    exact ⟨_, rfl⟩

/-- Before the end of a tag only the blanks at the start of the text inside it are skipped. -/
theorem dropWhile_append_end (d : Delimiters) (sigil : Option Sigil) (inside rest : List Char) :
    (inside ++ (terminator sigil ++ d.closing.toList ++ rest)).dropWhile Text.isBlank =
      Text.trimStart inside ++ (terminator sigil ++ d.closing.toList ++ rest) := by
  obtain ⟨c, hhead, hc⟩ := head?_terminator_append d sigil
  obtain ⟨more, hmore⟩ := List.head?_eq_some_iff.1 hhead
  rw [hmore, List.dropWhile_append]
  split
  · next h =>
    rw [Text.trimStart, List.isEmpty_iff.1 h]
    simp [hc]
  · rfl

/-- **A printed tag is read back**: its sigil, the text inside it without the blanks around it, and
the text behind it. -/
theorem take?_print {d : Delimiters} {sigil : Option Sigil} {inside : List Char}
    (rest : List Char)
    (hend : ∀ c ∈ inside, (terminator sigil ++ d.closing.toList).head? ≠ some c)
    (hsigil : sigil = none → ∃ c ∈ inside.head?, Sigil.ofChar? c = none) :
    ∃ t, Tag.take? d ((sigil.map Sigil.char).toList ++
        (inside ++ (terminator sigil ++ d.closing.toList ++ rest))) = some t ∧
      t.sigil = sigil ∧ t.value = Text.trimChars inside ∧ t.rest = rest := by
  have hmark : Tag.takeSigil ((sigil.map Sigil.char).toList ++
      (inside ++ (terminator sigil ++ d.closing.toList ++ rest))) =
        (sigil, (sigil.map Sigil.char).toList,
          inside ++ (terminator sigil ++ d.closing.toList ++ rest)) := by
    cases sigil with
    | some s => simp [Tag.takeSigil]
    | none =>
      obtain ⟨c, hhead, hc⟩ := hsigil rfl
      obtain ⟨more, rfl⟩ := List.head?_eq_some_iff.1 hhead
      simp [Tag.takeSigil, hc]
  have hstart : ∀ c ∈ Text.trimStart inside,
      (terminator sigil ++ d.closing.toList).head? ≠ some c :=
    fun c hc => hend c ((List.dropWhile_suffix _).subset hc)
  obtain ⟨written, hvalue⟩ := takeValue?_append_end rest hstart
  unfold Tag.take?
  simp only [hmark, dropWhile_append_end, hvalue, Option.bind_eq_bind, Option.bind_some]
  exact ⟨_, rfl, rfl, rfl, rfl⟩

/-- Blanks around a value do not look like the end of a tag. -/
theorem ne_end_padded {d : Delimiters} {sigil : Option Sigil} {value : List Char} (pad : Padding)
    (hend : ∀ c ∈ value, (terminator sigil ++ d.closing.toList).head? ≠ some c) :
    ∀ c ∈ pad.before ++ value ++ pad.after,
      (terminator sigil ++ d.closing.toList).head? ≠ some c := by
  obtain ⟨e, hhead, he⟩ := head?_terminator_append d sigil
  have hblank {c : Char} (hc : Text.isBlank c = true) :
      (terminator sigil ++ d.closing.toList).head? ≠ some c := by
    intro heq
    obtain rfl := Option.some.inj (hhead.symm.trans heq)
    exact Bool.false_ne_true (he.symm.trans hc)
  intro c hc
  simp only [List.mem_append, or_assoc] at hc
  rcases hc with hc | hc | hc
  · exact hblank (pad.isBlank_before c hc)
  · exact hend c hc
  · exact hblank (pad.isBlank_after c hc)

/-- Blanks before a value without a sigil do not look like a sigil. -/
theorem ofChar?_head?_padded {value : List Char} (pad : Padding)
    (h : ∃ c ∈ value.head?, Sigil.ofChar? c = none) :
    ∃ c ∈ (pad.before ++ value ++ pad.after).head?, Sigil.ofChar? c = none := by
  obtain ⟨c, hc, hofChar⟩ := h
  obtain ⟨more, rfl⟩ := List.head?_eq_some_iff.1 hc
  cases hbefore : pad.before with
  | nil => exact ⟨c, rfl, hofChar⟩
  | cons b before =>
    have hb : Text.isBlank b = true := pad.isBlank_before b (by simp [hbefore])
    exact ⟨b, rfl, Sigil.ofChar?_of_blank hb⟩

/-- A printed tag is found where it stands, as the mark of its sigil and its value. -/
theorem startsWithTag_printTag {d : Delimiters} {sigil : Option Sigil} {value : List Char}
    (pad : Padding) (position : Nat) (rest : List Char) {mark : Mark} (htrimmed : Trimmed value)
    (hend : ∀ c ∈ value, (terminator sigil ++ d.closing.toList).head? ≠ some c)
    (hsigil : sigil = none → ∃ c ∈ value.head?, Sigil.ofChar? c = none)
    (hmark : ∀ t : Tag, t.sigil = sigil → t.value = value →
      Mark.ofTag t ⟨position, position + Text.byteSize (printTag d sigil pad value)⟩ =
        .ok mark) :
    StartsWithTag d position (printTag d sigil pad value ++ rest) mark rest := by
  obtain ⟨t, htake, ht, hvalue, hrest⟩ := take?_print rest (ne_end_padded pad hend)
    fun hnone => ofChar?_head?_padded pad (hsigil hnone)
  rw [trimChars_padded htrimmed] at hvalue
  have happend := Tag.written_append_rest htake
  rw [hrest] at happend
  have hwritten : d.opening.toList ++ t.written = printTag d sigil pad value := by
    refine List.append_cancel_right (?_ : _ ++ rest = _ ++ rest)
    rw [List.append_assoc, happend, printTag]
    simp only [List.append_assoc]
  refine ⟨t, ?_, ?_, hrest, ?_⟩
  · rw [← List.append_assoc, hwritten]
  · rw [happend, htake]
  · rw [hwritten, hmark t ht hvalue]

namespace LoneTag

/-- The mark of a tag that stands alone. -/
theorem ofTag_eq (t : LoneTag) {written : Tag} (hsigil : written.sigil = t.sigil)
    (hvalue : written.value = t.value) (span : Span) :
    Mark.ofTag written span = .ok (.leaf t.leaf span) := by
  cases t with
  | delimiters d =>
    simp only [Mark.ofTag, hsigil, hvalue, sigil, value, d.read?_text]
    rfl
  | raw name braced =>
    cases braced <;> simp only [Mark.ofTag, hsigil, hvalue, sigil, value, String.ofList_toList] <;>
      rfl
  | _ =>
    simp only [Mark.ofTag, hsigil, hvalue, sigil, value, String.ofList_toList]
    rfl

variable {d : Delimiters} {t : LoneTag}

/-- New delimiters start and end without a blank, as names and remarks do. -/
theorem Fits.trimmed (h : t.Fits d) : Trimmed t.value := by
  cases t with
  | escaped name => exact h.1.1
  | raw name braced => exact h.1.1
  | partialRef name => exact h.1
  | comment s => exact h.1
  | delimiters d' =>
    refine ⟨fun c hc => ?_, fun c hc => ?_⟩
    · rw [value, d'.toList_text, List.head?_append_of_ne_nil _ d'.opening_ne_nil] at hc
      exact d'.not_isBlank_of_mem_opening (List.mem_of_mem_head? hc)
    · rw [value, d'.toList_text, List.getLast?_append_of_ne_nil _ (List.cons_ne_nil _ _),
        List.getLast?_cons_of_ne_nil d'.closing_ne_nil] at hc
      exact d'.not_isBlank_of_mem_closing (List.mem_of_mem_getLast? hc)

/-- Nothing in the value looks like the end of the tag. -/
theorem Fits.ne_end (h : t.Fits d) :
    ∀ c ∈ t.value, (terminator t.sigil ++ d.closing.toList).head? ≠ some c := by
  cases t with
  | escaped name => exact h.1.2
  | raw name braced =>
    cases braced with
    | true =>
      rintro c hc heq
      cases heq
      exact h.2 rfl hc
    | false => exact h.1.2
  | partialRef name => exact h.2
  | comment s => exact h.2
  | delimiters d' =>
    rintro c hc heq
    cases heq
    rw [value, d'.toList_text] at hc
    rcases List.mem_append.1 hc with hc | hc
    · exact h.1 hc
    · rcases List.mem_cons.1 hc with hc | hc
      · cases hc
      · exact h.2 hc

/-- A value without a sigil does not look as if it had one. -/
theorem Fits.head?_value (h : t.Fits d) (hsigil : t.sigil = none) :
    ∃ c ∈ t.value.head?, Sigil.ofChar? c = none := by
  cases t with
  | escaped name =>
    obtain ⟨-, hne, hhead⟩ := h
    obtain ⟨c, more, hname⟩ := List.exists_cons_of_ne_nil (mt String.toList_eq_nil_iff.1 hne)
    exact ⟨c, by simp [value, hname], by simpa [hname] using hhead⟩
  | raw name braced => cases braced <;> cases hsigil
  | _ => cases hsigil

theorem delimitersAfter_leaf (t : LoneTag) (d : Delimiters) (span : Span) :
    (Mark.leaf t.leaf span).delimitersAfter d = t.after d := by
  cases t <;> rfl

/-- A tag that stands alone is found where it stands. -/
theorem Fits.startsWithTag (h : t.Fits d) (pad : Padding) (position : Nat) (rest : List Char) :
    StartsWithTag d position (t.print d pad ++ rest)
      (.leaf t.leaf ⟨position, position + Text.byteSize (t.print d pad)⟩) rest :=
  startsWithTag_printTag pad position rest h.trimmed h.ne_end h.head?_value
    fun _ hsigil hvalue => t.ofTag_eq hsigil hvalue _

end LoneTag

/-- The opening tag of a section is found where it stands. -/
theorem Holds.startsWithTag_opening {d : Delimiters} {name : String} (h : Holds d name)
    (inverted : Bool) (pad : Padding) (position : Nat) (rest : List Char) :
    StartsWithTag d position (printOpening d inverted name pad ++ rest)
      (.opening inverted name ⟨position,
        position + Text.byteSize (printOpening d inverted name pad)⟩) rest := by
  have hend : ∀ c ∈ name.toList,
      (terminator (some (if inverted then Sigil.inverted else .opening)) ++
        d.closing.toList).head? ≠ some c := by
    cases inverted <;> exact h.2
  refine startsWithTag_printTag pad position rest h.1 hend nofun fun t hsigil hvalue => ?_
  cases inverted <;> simp [Mark.ofTag, hsigil, hvalue, printOpening]

/-- The closing tag of a section is found where it stands. -/
theorem Holds.startsWithTag_closing {d : Delimiters} {name : String} (h : Holds d name)
    (pad : Padding) (position : Nat) (rest : List Char) :
    StartsWithTag d position (printClosing d name pad ++ rest)
      (.closing name ⟨position, position + Text.byteSize (printClosing d name pad)⟩) rest := by
  refine startsWithTag_printTag pad position rest h.1 h.2 nofun fun t hsigil hvalue => ?_
  simp [Mark.ofTag, hsigil, hvalue, printClosing]

/-! ### Reading a printed list of trees -/

/-- A text without the first character of the opening delimiter is read character by character. -/
theorem Scans.of_text {d : Delimiters} {cs : List Char} {position : Nat} {more : List Char}
    {pieces : List Piece} (h : ∀ c ∈ cs, d.opening.toList.head? ≠ some c)
    (hmore : Scans d (position + Text.byteSize cs) more pieces) :
    Scans d position (cs ++ more) (spread position cs ++ pieces) := by
  induction cs generalizing position with
  | nil => exact hmore
  | cons c cs ih =>
    rw [Text.byteSize_cons, ← Nat.add_assoc] at hmore
    refine .char (fun hfound => ?_) (ih (fun b hb => h b (List.mem_cons_of_mem _ hb)) hmore)
    obtain ⟨o, opening, hopening⟩ := List.exists_cons_of_ne_nil d.opening_ne_nil
    rw [hopening] at hfound
    obtain ⟨hoc, -⟩ := List.cons_prefix_cons.1 hfound
    exact h c List.mem_cons_self (by rw [hopening, hoc]; rfl)

namespace Spelling

/-- The runs of the text that stands at an offset. -/
def runs (d : Delimiters) (position : Nat) : Spelling → List Run
  | done => []
  | text s rest => .text s.toList position :: rest.runs d (position + Text.byteSize s.toList)
  | tag t pad rest =>
    let stop := position + Text.byteSize (t.print d pad)
    .tag (.leaf t.leaf ⟨position, stop⟩) :: rest.runs (t.after d) stop
  | block inverted name pad children closePad rest =>
    let start := position + Text.byteSize (printOpening d inverted name pad)
    let close := start + Text.byteSize (children.print d)
    let stop := close + Text.byteSize (printClosing (children.after d) name closePad)
    .tag (.opening inverted name ⟨position, start⟩) :: (children.runs d start ++
      .tag (.closing name ⟨close, stop⟩) :: rest.runs (children.after d) stop)

/-- **The printed text is read as its runs**, whatever follows it. -/
theorem scans_print {d : Delimiters} {w : Spelling} (h : w.Fits d) {position : Nat}
    {more : List Char} {pieces : List Piece}
    (hmore : Scans (w.after d) (position + Text.byteSize (w.print d)) more pieces) :
    Scans d position (w.print d ++ more) ((w.runs d position).flatMap Run.pieces ++ pieces) := by
  induction w generalizing d position more pieces with
  | done => exact hmore
  | text s rest ih =>
    obtain ⟨-, hs, -, hrest⟩ := h
    simp only [print, after, Text.byteSize_append, ← Nat.add_assoc] at hmore
    rw [print, runs, List.flatMap_cons, List.append_assoc, List.append_assoc]
    exact .of_text (fun c hc => (hs c hc).2) (ih hrest hmore)
  | tag t pad rest ih =>
    obtain ⟨ht, hrest⟩ := h
    simp only [print, after, Text.byteSize_append, ← Nat.add_assoc] at hmore
    rw [print, runs, List.flatMap_cons, List.append_assoc, List.append_assoc]
    refine .tag (ht.startsWithTag pad position _) ?_
    rw [t.delimitersAfter_leaf]
    exact ih hrest hmore
  | block inverted name pad children closePad rest ihChildren ihRest =>
    obtain ⟨hname, hchildren, hclose, hrest⟩ := h
    simp only [print, after, Text.byteSize_append, ← Nat.add_assoc] at hmore
    simp only [print, runs, List.flatMap_cons, List.flatMap_append, List.append_assoc]
    refine .tag (hname.startsWithTag_opening inverted pad position _) (ihChildren hchildren ?_)
    exact .tag (hclose.startsWithTag_closing closePad _ _) (ihRest hrest hmore)

/-- The text starts with a run of characters only if it starts with a text. -/
theorem isText_of_head?_runs {d : Delimiters} {position : Nat} {w : Spelling} {run : Run}
    (h : run ∈ (w.runs d position).head?) : run.isText = w.startsWithText := by
  cases w <;> cases h <;> rfl

/-- The runs of a printed text are apart. -/
theorem apart_runs {d : Delimiters} {w : Spelling} (h : w.Fits d) (position : Nat) :
    Apart (w.runs d position) := by
  induction w generalizing d position with
  | done => exact .nil
  | text s rest ih =>
    obtain ⟨hne, -, hfirst, hrest⟩ := h
    have hcs : s.toList ≠ [] := mt String.toList_eq_nil_iff.1 hne
    refine (ih hrest _).text_cons hcs fun run hrun => ?_
    rw [isText_of_head?_runs hrun, hfirst]
  | tag t pad rest ih => exact (ih h.2 _).tag_cons
  | block inverted name pad children closePad rest ihChildren ihRest =>
    obtain ⟨-, hchildren, -, hrest⟩ := h
    exact ((ihChildren hchildren _).append_tag (ihRest hrest _)).tag_cons

/-- The runs of a printed text give the trees that were written. -/
theorem unfolds_runs (d : Delimiters) (w : Spelling) (position : Nat) :
    ∃ tokens, Unfolds tokens ((w.runs d position).map Run.mark) ∧ bares tokens = w.trees := by
  induction w generalizing d position with
  | done => exact ⟨[], .nil, rfl⟩
  | text s rest ih =>
    obtain ⟨tokens, hunfolds, hbare⟩ := ih d (position + Text.byteSize s.toList)
    refine ⟨_, .leaf hunfolds, ?_⟩
    simp [bares, Token.bare, trees, hbare]
  | tag t pad rest ih =>
    obtain ⟨tokens, hunfolds, hbare⟩ := ih (t.after d) (position + Text.byteSize (t.print d pad))
    refine ⟨_, .leaf hunfolds, ?_⟩
    simp [bares, Token.bare, trees, hbare]
  | block inverted name pad children closePad rest ihChildren ihRest =>
    rw [runs]
    obtain ⟨inside, hinside, hinsideBare⟩ := ihChildren d
      (position + Text.byteSize (printOpening d inverted name pad))
    obtain ⟨tokens, hunfolds, hbare⟩ := ihRest (children.after d) _
    simp only [List.map_cons, List.map_append]
    refine ⟨_, .block hinside hunfolds, ?_⟩
    simp [bares, Token.bare, trees, hinsideBare, hbare]

/-- A text in print holds no line break. -/
theorem Fits.unbroken {d : Delimiters} {w : Spelling} (h : w.Fits d) (position : Nat) :
    Unbroken ((w.runs d position).flatMap Run.pieces) := by
  induction w generalizing d position with
  | done => exact unbroken_nil
  | text s rest ih =>
    obtain ⟨-, hs, -, hrest⟩ := h
    rw [runs, List.flatMap_cons]
    exact (unbroken_spread position fun c hc => (hs c hc).1).append (ih hrest _)
  | tag t pad rest ih =>
    rw [runs, List.flatMap_cons]
    exact (unbroken_tag _).append (ih h.2 _)
  | block inverted name pad children closePad rest ihChildren ihRest =>
    obtain ⟨-, hchildren, -, hrest⟩ := h
    rw [runs, List.flatMap_cons, List.flatMap_append, List.flatMap_cons]
    exact (unbroken_tag _).append
      ((ihChildren hchildren _).append ((unbroken_tag _).append (ihRest hrest _)))

end Spelling

/-- **Parsing undoes printing**: whatever delimiters are in force, whichever way each tag is
written, the tree of the text is the one that was written. -/
theorem parse_print (d : Delimiters) (w : Spelling) (h : w.Fits d) :
    (parse d (w.print d)).map bares = .ok w.trees := by
  obtain ⟨tokens, hunfolds, hbare⟩ := w.unfolds_runs d 0
  have hapart := w.apart_runs h 0
  have hscans : Scans d 0 (w.print d) ((w.runs d 0).flatMap Run.pieces) := by
    simpa using Spelling.scans_print h (.done (d := w.after d))
  have hsquash : squash ((w.runs d 0).flatMap Run.pieces) = (w.runs d 0).map Run.mark := by
    rw [squash, runs_flatMap_pieces hapart]
  have htags : tagsOf ((w.runs d 0).flatMap Run.pieces) =
      ((w.runs d 0).map Run.mark).filter Mark.isTag :=
    tagsOf_flatMap_pieces fun mark hmark =>
      hscans.isTag_of_tag (List.mem_flatMap.2 ⟨_, hmark, List.mem_singleton_self _⟩)
  have hparse : parse d (w.print d) = .ok tokens := by
    refine parse_eq_ok_iff.2 ⟨_, hscans, ?_, ?_⟩
    · rw [htags, foldlM_matchMark_filter, hunfolds.foldlM_matchMark]
    · rw [settle_of_unbroken (h.unbroken 0), hsquash, nest_eq_of_unfolds hunfolds]
  rw [hparse, ← hbare]
  rfl

/-- A list of films in which the delimiters change inside the section, so that its closing tag is
written with the new ones. -/
def filmList : Spelling :=
  .text "Films: " <| .block false "films" .none
    (.tag (.escaped "title") ⟨[' '], ['\n'], by decide, by decide⟩ <| .text ", " <|
      .tag (.raw "note" true) .none <| .tag (.raw "more" false) .none <|
      .tag (.delimiters ⟨"<%", "%>", by decide, by decide⟩) .none .done)
    ⟨[], [' '], by decide, by decide⟩ <|
  .tag (.partialRef "footer") .none .done

theorem parse_print_filmList :
    filmList.Fits .standard ∧
      filmList.print .standard = ("Films: \x7b\x7b#films\x7d\x7d\x7b\x7b title\n\x7d\x7d, " ++
        "\x7b\x7b\x7bnote\x7d\x7d\x7d\x7b\x7b&more\x7d\x7d\x7b\x7b=<% %>=\x7d\x7d" ++
        "<%/films %><%>footer%>").toList ∧
      (parse .standard (filmList.print .standard)).map bares = .ok filmList.trees :=
  ⟨by decide +kernel, by decide +kernel, parse_print _ _ (by decide +kernel)⟩

end LiveTable.Template
