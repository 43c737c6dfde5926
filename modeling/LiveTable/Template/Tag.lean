import LiveTable.Template.Delimiters

/-!
# Tags as written

After its opening delimiter a tag has an optional sigil, blanks, a value, blanks and its closing
delimiter. A value in braces ends at a brace before the closing delimiter; new delimiters end at an
equals sign.

* `Sigil`: what a tag is for;
* `before? literal cs`: the text before and after the first occurrence of `literal`;
* `Tag`: a tag as written, with the text that follows it;
* `Tag.take? d cs`: the tag whose opening delimiter came before `cs`.
-/

namespace LiveTable.Template

/-- The character after an opening delimiter that says what a tag is for. -/
inductive Sigil where
  | opening | inverted | closing | partialRef | braced | unescaped | delimiters | comment
  deriving DecidableEq, Repr

/-- The sigil of a character. -/
def Sigil.ofChar? : Char → Option Sigil
  | '#' => some .opening
  | '^' => some .inverted
  | '/' => some .closing
  | '>' => some .partialRef
  | '\x7b' => some .braced
  | '&' => some .unescaped
  | '=' => some .delimiters
  | '!' => some .comment
  | _ => none

/-- The text before and after the first occurrence of a literal. -/
def before? (literal : List Char) : List Char → Option (List Char × List Char)
  | [] => if literal = [] then some ([], []) else none
  | c :: cs =>
    match literal.isPrefixOf? (c :: cs) with
    | some rest => some ([], rest)
    | none => (before? literal cs).map fun (before, rest) => (c :: before, rest)

theorem append_of_isPrefixOf? {literal cs rest : List Char}
    (h : literal.isPrefixOf? cs = some rest) : cs = literal ++ rest := by
  induction literal generalizing cs with
  | nil => exact Option.some.inj h
  | cons a literal ih =>
    cases cs with
    | nil => cases h
    | cons c cs =>
      change (if a == c then literal.isPrefixOf? cs else none) = some rest at h
      by_cases hac : a = c
      · rw [hac, beq_self_eq_true, if_pos rfl] at h
        rw [hac, ih h, List.cons_append]
      · rw [if_neg (mt eq_of_beq hac)] at h
        cases h

/-- Nothing is lost: the text is the part before the literal, the literal, and the rest. -/
theorem append_of_before? {literal cs before rest : List Char}
    (h : before? literal cs = some (before, rest)) : cs = before ++ literal ++ rest := by
  induction cs generalizing before with
  | nil =>
    simp only [before?] at h
    split at h
    · next hl => simp_all
    · simp at h
  | cons c cs ih =>
    simp only [before?] at h
    split at h
    · next r hr =>
      simp only [Option.some.injEq, Prod.mk.injEq] at h
      obtain ⟨rfl, rfl⟩ := h
      simpa using append_of_isPrefixOf? hr
    · simp only [Option.map_eq_some_iff, Prod.exists] at h
      obtain ⟨b, r, hbr, heq⟩ := h
      simp only [Prod.mk.injEq] at heq
      obtain ⟨rfl, rfl⟩ := heq
      simp [ih hbr]

/-- A tag as written: its sigil, its value, all its characters after the opening delimiter, and
the text that follows it. -/
structure Tag where
  sigil : Option Sigil
  value : List Char
  written : List Char
  rest : List Char

namespace Tag

/-- The sigil at the head of a text: the sigil, its characters and the text after it. -/
def takeSigil : List Char → Option Sigil × List Char × List Char
  | [] => (none, [], [])
  | c :: cs =>
    match Sigil.ofChar? c with
    | some sigil => (some sigil, [c], cs)
    | none => (none, [], c :: cs)

theorem takeSigil_append (cs : List Char) : (takeSigil cs).2.1 ++ (takeSigil cs).2.2 = cs := by
  cases cs with
  | nil => rfl
  | cons c cs => simp only [takeSigil]; split <;> simp

/-- The value of a tag with the given sigil at the head of a text: the value as written, the
characters from it to the end of the tag, and the text after the tag. -/
def takeValue? (d : Delimiters) (sigil : Option Sigil) (cs : List Char) :
    Option (List Char × List Char × List Char) :=
  let closing := d.closing.toList
  match sigil with
  | some .delimiters => do
    let (value, rest) ← before? ['='] cs
    let (padding, rest) ← before? closing rest
    pure (value, value ++ '=' :: padding ++ closing, rest)
  | some .braced => do
    let (value, rest) ← before? ('\x7d' :: closing) cs
    pure (value, value ++ '\x7d' :: closing, rest)
  | _ => do
    let (value, rest) ← before? closing cs
    pure (value, value ++ closing, rest)

theorem takeValue?_append {d : Delimiters} {sigil : Option Sigil}
    {cs value written rest : List Char}
    (h : takeValue? d sigil cs = some (value, written, rest)) : written ++ rest = cs := by
  unfold takeValue? at h
  split at h
  · cases h1 : before? ['='] cs with
    | none => simp [h1] at h
    | some p =>
      obtain ⟨v, r⟩ := p
      cases h2 : before? d.closing.toList r with
      | none => simp [h1, h2] at h
      | some q =>
        obtain ⟨b, r'⟩ := q
        simp [h1, h2] at h
        obtain ⟨rfl, rfl, rfl⟩ := h
        have e1 := append_of_before? h1
        have e2 := append_of_before? h2
        simp [e1, e2]
  · cases h1 : before? ('\x7d' :: d.closing.toList) cs with
    | none => simp [h1] at h
    | some p =>
      obtain ⟨v, r⟩ := p
      simp [h1] at h
      obtain ⟨rfl, rfl, rfl⟩ := h
      have e1 := append_of_before? h1
      simp [e1]
  · cases h1 : before? d.closing.toList cs with
    | none => simp [h1] at h
    | some p =>
      obtain ⟨v, r⟩ := p
      simp [h1] at h
      obtain ⟨rfl, rfl, rfl⟩ := h
      have e1 := append_of_before? h1
      simp [e1]

/-- The tag whose opening delimiter came before the text, unless it is never closed. -/
def take? (d : Delimiters) (cs : List Char) : Option Tag := do
  let (sigil, mark, cs) := takeSigil cs
  let blanks := cs.takeWhile Text.isBlank
  let (value, written, rest) ← takeValue? d sigil (cs.dropWhile Text.isBlank)
  pure ⟨sigil, Text.trimEnd value, mark ++ blanks ++ written, rest⟩

/-- Nothing is lost: the text is what the tag wrote and what follows it. -/
theorem written_append_rest {d : Delimiters} {cs : List Char} {t : Tag}
    (h : take? d cs = some t) : t.written ++ t.rest = cs := by
  unfold take? at h
  cases hv : takeValue? d (takeSigil cs).1 ((takeSigil cs).2.2.dropWhile Text.isBlank) with
  | none => simp [hv] at h
  | some p =>
    obtain ⟨value, written, rest⟩ := p
    simp [hv] at h
    subst h
    have e := takeValue?_append hv
    have s := takeSigil_append cs
    simp only [List.append_assoc, e, List.takeWhile_append_dropWhile]
    exact s

/-- What follows a tag is no longer than the text in which it was found. -/
theorem rest_length_le {d : Delimiters} {cs : List Char} {t : Tag} (h : take? d cs = some t) :
    t.rest.length ≤ cs.length := by
  have e := congrArg List.length (written_append_rest h)
  simp only [List.length_append] at e
  omega

end Tag

end LiveTable.Template
