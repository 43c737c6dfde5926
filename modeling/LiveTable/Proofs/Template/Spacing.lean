import LiveTable.Proofs.Template.Outlines

/-!
# Blanks inside tags

Blanks behind the sigil of a tag make no difference, nor do blanks before the name of a tag without
a sigil. Blanks before a sigil do: what was a sigil is then the first character of a name.

* `Reaches d position front before d'`: reading `front` comes to a tag, with `d'` in force;
* `Reaches.scan_eq`: whatever stands in the tag and behind it;
* `exists_reaches`: every tag of a text is come to;
* `Tag.unwritten`: a tag but for the characters that it is written with;
* `Tag.take?_blanks`: blanks behind a sigil leave the tag as it is;
* `outline_eq_of_blanks`, `outline_ne_of_blanks`: what blanks do to a template;
* `outline_of_blanks`: both together;
* `not_forall_outline_eq`: so blanks in a tag may change a template.
-/

namespace LiveTable.Template

/-! ### Coming to a tag -/

/-- The text `front`, which stands at `position` with the delimiters `d` in force, is read as the
pieces `before`, and then a tag starts with the opening delimiter of `d'`, if it follows. -/
inductive Reaches : Delimiters → Nat → List Char → List Piece → Delimiters → Prop where
  | here {d : Delimiters} {position : Nat} : Reaches d position [] [] d
  | char {d d' : Delimiters} {position : Nat} {c : Char} {front : List Char} {before : List Piece}
      (hc : ¬ d.opening.toList <+: c :: (front ++ d'.opening.toList))
      (rest : Reaches d (position + c.utf8Size) front before d') :
      Reaches d position (c :: front) (.char c position :: before) d'
  | tag {d d' : Delimiters} {position : Nat} {written front : List Char} {mark : Mark}
      {before : List Piece} (htag : StartsWithTag d position written mark [])
      (after : Reaches (mark.delimitersAfter d) mark.span.stop front before d') :
      Reaches d position (written ++ front) (.tag mark :: before) d'

namespace Reaches

variable {d d' : Delimiters} {position : Nat} {front : List Char} {before : List Piece}

/-- There is room for an opening delimiter up to the tag's own. -/
theorem length_opening_le (h : Reaches d position front before d') :
    d.opening.toList.length ≤ (front ++ d'.opening.toList).length := by
  induction h with
  | here => exact Nat.le_refl _
  | char _ _ ih =>
    rw [List.cons_append, List.length_cons]
    omega
  | tag htag _ _ =>
    obtain ⟨t, rfl, -⟩ := htag
    simp only [List.length_append]
    omega

/-- **The tag is come to whatever stands in it and behind it.** -/
theorem scan_eq (h : Reaches d position front before d') (inside : List Char) :
    scan d position (front ++ (d'.opening.toList ++ inside)) =
      (scan d' (position + Text.byteSize front) (d'.opening.toList ++ inside)).prepend before := by
  induction h with
  | here => rfl
  | @char d d' position c front before hc rest ih =>
    -- an opening delimiter here would end before what stands in the tag
    have hopening : ¬ d.opening.toList <+: c :: (front ++ (d'.opening.toList ++ inside)) := by
      intro hfirst
      rw [← List.append_assoc, ← List.cons_append] at hfirst
      refine hc (List.prefix_of_prefix_length_le hfirst (List.prefix_append _ inside) ?_)
      rw [List.length_cons]
      exact Nat.le_succ_of_le rest.length_opening_le
    rw [List.cons_append, scan_char hopening, ih, Text.byteSize_cons, Nat.add_assoc]
    rfl
  | @tag d d' position written front mark before htag after ih =>
    obtain ⟨_, hwritten, -, -, hspan⟩ := htag.exists_written
    rw [List.append_nil] at hwritten
    subst hwritten
    rw [List.append_assoc, scan_tag (StartsWithTag.append_iff.2 htag), List.nil_append, ih, hspan,
      Text.byteSize_append, Nat.add_assoc]
    rfl

end Reaches

/-- **Every tag of a text is come to**, also one that is at fault. -/
theorem exists_reaches (d : Delimiters) (position : Nat) (cs : List Char) (after : List Piece) :
    ∀ before, (scan d position cs).pieces = before ++ after →
      (∃ mark more, after = .tag mark :: more) ∨
        after = [] ∧ (scan d position cs).fault ≠ none →
      ∃ front inside,
        cs = front ++ ((inForce d (tagsOf before)).opening.toList ++ inside) ∧
          Reaches d position front before (inForce d (tagsOf before)) := by
  -- piece by piece, as the scanner goes: at a fault no piece is left before the tag
  fun_induction scan d position cs with
  | case1 =>
    intro before h hafter
    obtain ⟨rfl, rfl⟩ := List.append_eq_nil_iff.1 h.symm
    simp at hafter
  | case2 d position c cs hfound ih =>
    rintro (_ | ⟨x, before⟩) h hafter
    · cases h
      simp [Scan.cons] at hafter
    · obtain ⟨rfl, hmore⟩ := List.cons.inj h
      obtain ⟨front, inside, rfl, hreaches⟩ := ih before hmore hafter
      refine ⟨c :: front, inside, rfl, .char (fun hfirst => ?_) hreaches⟩
      refine isPrefixOf?_eq_none.1 hfound (hfirst.trans ?_)
      rw [← List.append_assoc, ← List.cons_append]
      exact List.prefix_append _ inside
  | case3 d position c cs inside hfound =>
    intro before h hafter
    obtain ⟨rfl, rfl⟩ := List.append_eq_nil_iff.1 h.symm
    exact ⟨[], inside, (append_of_isPrefixOf? hfound :), .here⟩
  | case4 d position c cs inside hfound =>
    intro before h hafter
    obtain ⟨rfl, rfl⟩ := List.append_eq_nil_iff.1 h.symm
    exact ⟨[], inside, (append_of_isPrefixOf? hfound :), .here⟩
  | case5 d position c cs inside hfound start t hclosed stop mark hmark ih =>
    rintro (_ | ⟨x, before⟩) h hafter
    · exact ⟨[], inside, (append_of_isPrefixOf? hfound :), .here⟩
    · obtain ⟨rfl, hmore⟩ := List.cons.inj h
      obtain ⟨front, rest, hrest, hreaches⟩ := ih before hmore hafter
      have hinside := Tag.written_append_rest hclosed
      have hstop : mark.span.stop = stop := by rw [(Mark.isTag_of_ofTag hmark).2]
      have htag : StartsWithTag d position (d.opening.toList ++ t.written) mark [] := by
        refine StartsWithTag.append_iff.1 (⟨t, ?_, ?_, rfl, ?_⟩ : StartsWithTag d position
          (d.opening.toList ++ t.written ++ t.rest) mark ([] ++ t.rest))
        · rw [List.append_assoc, List.nil_append]
        · rw [List.nil_append, hinside, hclosed]
        · rw [Text.byteSize_append, ← Nat.add_assoc]
          exact hmark
      refine ⟨d.opening.toList ++ t.written ++ front, rest, ?_, ?_⟩
      · rw [append_of_isPrefixOf? hfound, ← hinside, hrest]
        simp
      · rw [← hstop] at hreaches
        exact .tag htag hreaches

/-! ### Tags but for how they are written -/

namespace Tag

/-- The tag but for the characters that it is written with. -/
def unwritten (t : Tag) : Tag := { t with written := [] }

theorem ofTag_unwritten (t : Tag) (span : Span) :
    Mark.ofTag t.unwritten span = Mark.ofTag t span := rfl

/-- What is read behind an opening delimiter is a sigil, and a value behind blanks. -/
theorem map_unwritten_take? (d : Delimiters) (cs : List Char) :
    (take? d cs).map unwritten =
      (takeValue? d (takeSigil cs).1 ((takeSigil cs).2.2.dropWhile Text.isBlank)).map
        fun (value, _, rest) => ⟨(takeSigil cs).1, Text.trimEnd value, [], rest⟩ := by
  unfold take?
  obtain ⟨sigil, mark, cs⟩ := takeSigil cs
  dsimp only
  cases takeValue? d sigil (cs.dropWhile Text.isBlank) <;> rfl

theorem sigil_of_take? {d : Delimiters} {cs : List Char} {t : Tag} (h : take? d cs = some t) :
    t.sigil = (takeSigil cs).1 := by
  obtain ⟨value, written, -, ht⟩ := take?_eq_some_iff.1 h
  rw [ht]

/-- The character of a sigil is read as this sigil; without one, no character may look like one. -/
theorem takeSigil_append_char {sigil : Option Sigil} {cs : List Char}
    (h : sigil = none → cs.head?.bind Sigil.ofChar? = none) :
    takeSigil ((sigil.map Sigil.char).toList ++ cs) =
      (sigil, (sigil.map Sigil.char).toList, cs) := by
  cases sigil with
  | some s => simp [takeSigil]
  | none =>
    cases cs with
    | nil => rfl
    | cons c cs =>
      have hc : Sigil.ofChar? c = none := h rfl
      simp [takeSigil, hc]

theorem takeSigil_char (sigil : Sigil) (cs : List Char) :
    (takeSigil (sigil.char :: cs)).1 = some sigil := by
  simp [takeSigil]

/-- Behind a blank there is no sigil. -/
theorem takeSigil_of_blank {c : Char} (hc : Text.isBlank c = true) (cs : List Char) :
    (takeSigil (c :: cs)).1 = none := by
  simp [takeSigil, Sigil.ofChar?_of_blank hc]

/-- Blanks do not look like a sigil. -/
theorem head?_bind_ofChar?_of_blanks {gap blanks inside : List Char}
    (hgap : ∀ c ∈ gap, Text.isBlank c = true) (hblanks : ∀ c ∈ blanks, Text.isBlank c = true)
    (h : (gap ++ inside).head?.bind Sigil.ofChar? = none) :
    (gap ++ (blanks ++ inside)).head?.bind Sigil.ofChar? = none := by
  cases gap with
  | cons c gap => exact Sigil.ofChar?_of_blank (hgap c List.mem_cons_self)
  | nil =>
    cases blanks with
    | cons c blanks => exact Sigil.ofChar?_of_blank (hblanks c List.mem_cons_self)
    | nil => exact h

/-- **Blanks behind the sigil leave the tag as it is**, but for how it is written. -/
theorem take?_blanks (d : Delimiters) {sigil : Option Sigil} {gap blanks inside : List Char}
    (hgap : ∀ c ∈ gap, Text.isBlank c = true) (hblanks : ∀ c ∈ blanks, Text.isBlank c = true)
    (hsigil : sigil = none → (gap ++ inside).head?.bind Sigil.ofChar? = none) :
    (take? d ((sigil.map Sigil.char).toList ++ (gap ++ (blanks ++ inside)))).map unwritten =
      (take? d ((sigil.map Sigil.char).toList ++ (gap ++ inside))).map unwritten := by
  rw [map_unwritten_take?, map_unwritten_take?, takeSigil_append_char hsigil,
    takeSigil_append_char fun hnone => head?_bind_ofChar?_of_blanks hgap hblanks (hsigil hnone)]
  simp only [List.dropWhile_append_of_pos hgap, List.dropWhile_append_of_pos hblanks]

end Tag

/-! ### Templates with more blanks -/

/-- Tags that differ in how they are written are scanned alike, but for places. -/
theorem scan_opening_congr {d : Delimiters} {cs cs' : List Char}
    (h : (Tag.take? d cs).map Tag.unwritten = (Tag.take? d cs').map Tag.unwritten)
    (position : Nat) :
    (scan d position (d.opening.toList ++ cs)).move nowhere =
      (scan d position (d.opening.toList ++ cs')).move nowhere := by
  rw [scan_opening (isPrefixOf?_append _ cs), scan_opening (isPrefixOf?_append _ cs')]
  cases htake : Tag.take? d cs with
  | none =>
    rw [htake, Option.map_none, eq_comm, Option.map_eq_none_iff] at h
    rw [h]
    rfl
  | some t =>
    rw [htake, Option.map_some, eq_comm, Option.map_eq_some_iff] at h
    obtain ⟨t', htake', hunwritten⟩ := h
    rw [htake']
    dsimp only
    generalize (⟨position, _⟩ : Span) = span
    generalize (⟨position, _⟩ : Span) = span'
    have hrest : t'.rest = t.rest := (congrArg Tag.rest hunwritten :)
    -- moved to the start, both tags give the same mark or the same fault
    have hmark : moveResult nowhere (·.move nowhere) (Mark.ofTag t span) =
        moveResult nowhere (·.move nowhere) (Mark.ofTag t' span') := by
      rw [← Mark.ofTag_move, ← Mark.ofTag_move, ← Tag.ofTag_unwritten t, ← hunwritten]
      rfl
    cases hfirst : Mark.ofTag t span with
    | error fault =>
      cases hsecond : Mark.ofTag t' span' with
      | error fault' =>
        rw [hfirst, hsecond] at hmark
        simp only [Scan.move, List.map_nil, Option.map_some, Except.error.inj hmark]
      | ok mark' => rw [hfirst, hsecond] at hmark; cases hmark
    | ok mark =>
      cases hsecond : Mark.ofTag t' span' with
      | error fault' => rw [hfirst, hsecond] at hmark; cases hmark
      | ok mark' =>
        rw [hfirst, hsecond] at hmark
        have hmove : mark.move nowhere = mark'.move nowhere := Except.ok.inj hmark
        dsimp only
        rw [Scan.move_cons, Scan.move_cons, scan_move_nowhere, scan_move_nowhere _ _ t'.rest, hrest,
          Piece.move, Piece.move, hmove, ← mark.delimitersAfter_move nowhere, hmove,
          mark'.delimitersAfter_move]

section Blanks

variable {d d' : Delimiters} {front : List Char} {before : List Piece}

/-- **Blanks behind a sigil leave the outline of a template as it is.** -/
theorem outline_eq_of_blanks (h : Reaches d 0 front before d') {sigil : Option Sigil}
    {gap blanks inside : List Char} (hgap : ∀ c ∈ gap, Text.isBlank c = true)
    (hblanks : ∀ c ∈ blanks, Text.isBlank c = true)
    (hsigil : sigil = none → (gap ++ inside).head?.bind Sigil.ofChar? = none) :
    outline (parse d (front ++ (d'.opening.toList ++ ((sigil.map Sigil.char).toList ++
        (gap ++ (blanks ++ inside)))))) =
      outline (parse d (front ++ (d'.opening.toList ++ ((sigil.map Sigil.char).toList ++
        (gap ++ inside))))) := by
  rw [parse_eq_tree, parse_eq_tree]
  refine Scan.outline_tree_congr ?_
  rw [h.scan_eq, h.scan_eq, Scan.move_prepend, Scan.move_prepend,
    scan_opening_congr (Tag.take?_blanks d' hgap hblanks hsigil)]

/-- A tag is the name of an escaped value if it has no sigil. -/
theorem Mark.ofTag_eq_escaped_iff {t : Tag} {span : Span} {mark : Mark}
    (h : Mark.ofTag t span = .ok mark) :
    (∃ name, mark.move nowhere = .leaf (.escaped name) ⟨0, 0⟩) ↔ t.sigil = none := by
  unfold Mark.ofTag at h
  split at h
  all_goals first
    | (cases h; simp [Mark.move, *])
    | (split at h <;> cases h; simp [Mark.move, *])

/-- In a text without a fault the tag that is come to is the next one. -/
theorem Reaches.exists_mark (h : Reaches d 0 front before d') {inside : List Char}
    (hfault : (scan d 0 (front ++ (d'.opening.toList ++ inside))).fault = none) :
    ∃ t span mark more, Tag.take? d' inside = some t ∧ Mark.ofTag t span = .ok mark ∧
      tagsOf (scan d 0 (front ++ (d'.opening.toList ++ inside))).pieces =
        tagsOf before ++ mark :: more := by
  rw [h.scan_eq, scan_opening (isPrefixOf?_append _ inside)] at hfault ⊢
  cases htake : Tag.take? d' inside with
  | none =>
    rw [htake] at hfault
    cases hfault
  | some t =>
    rw [htake] at hfault
    dsimp only at hfault ⊢
    generalize (⟨_, _⟩ : Span) = span at hfault ⊢
    cases hmark : Mark.ofTag t span with
    | error fault =>
      rw [hmark] at hfault
      cases hfault
    | ok mark =>
      exact ⟨t, span, mark, _, rfl, hmark, tagsOf_append before _⟩

/-- **Blanks before a sigil change the outline of every template.** What was a sigil is then the
first character of a name. -/
theorem outline_ne_of_blanks (h : Reaches d 0 front before d') {sigil : Sigil}
    {blanks inside : List Char} (hne : blanks ≠ []) (hblanks : ∀ c ∈ blanks, Text.isBlank c = true)
    {tokens : List Token}
    (hparse : parse d (front ++ (d'.opening.toList ++ sigil.char :: inside)) = .ok tokens) :
    outline (parse d (front ++ (d'.opening.toList ++ (blanks ++ sigil.char :: inside)))) ≠
      outline (parse d (front ++ (d'.opening.toList ++ sigil.char :: inside))) := by
  intro heq
  rw [hparse] at heq
  cases hspaced : parse d (front ++ (d'.opening.toList ++ (blanks ++ sigil.char :: inside))) with
  | error fault =>
    rw [hspaced] at heq
    cases heq
  | ok spaced =>
    rw [hspaced] at heq
    have hbares : bares spaced = bares tokens := Except.ok.inj heq
    obtain ⟨hfault, htags⟩ := filter_marksOf_parse hparse
    obtain ⟨hfault', htags'⟩ := filter_marksOf_parse hspaced
    obtain ⟨t, span, mark, more, htake, hmark, hpieces⟩ := h.exists_mark hfault
    obtain ⟨t', span', mark', more', htake', hmark', hpieces'⟩ := h.exists_mark hfault'
    -- the tags before are the same, and so is the next one
    have hsame : mark.move nowhere = mark'.move nowhere := by
      rw [hbares, htags, hpieces, hpieces', List.map_append, List.map_append,
        List.append_cancel_left_eq, List.map_cons, List.map_cons] at htags'
      exact (List.cons.inj htags').1
    obtain ⟨b, blanks, rfl⟩ := List.exists_cons_of_ne_nil hne
    have hnone : t'.sigil = none := by
      rw [Tag.sigil_of_take? htake']
      exact Tag.takeSigil_of_blank (hblanks b List.mem_cons_self) _
    have hsome : t.sigil = some sigil := by
      rw [Tag.sigil_of_take? htake, Tag.takeSigil_char]
    have hescaped := (Mark.ofTag_eq_escaped_iff hmark').2 hnone
    rw [← hsame, Mark.ofTag_eq_escaped_iff hmark, hsome] at hescaped
    cases hescaped

/-- **What blanks in a tag do.** Behind the sigil of any tag, or before its name if it has none, more
blanks leave the outline of a template as it is. Before a sigil they change the outline of every
text that is a template without them. -/
theorem outline_of_blanks (h : Reaches d 0 front before d') {blanks : List Char}
    (hblanks : ∀ c ∈ blanks, Text.isBlank c = true) :
    (∀ (sigil : Option Sigil) (gap inside : List Char), (∀ c ∈ gap, Text.isBlank c = true) →
      (sigil = none → (gap ++ inside).head?.bind Sigil.ofChar? = none) →
        outline (parse d (front ++ (d'.opening.toList ++ ((sigil.map Sigil.char).toList ++
            (gap ++ (blanks ++ inside)))))) =
          outline (parse d (front ++ (d'.opening.toList ++ ((sigil.map Sigil.char).toList ++
            (gap ++ inside)))))) ∧
    ∀ (sigil : Sigil) (inside : List Char) (tokens : List Token), blanks ≠ [] →
      parse d (front ++ (d'.opening.toList ++ sigil.char :: inside)) = .ok tokens →
        outline (parse d (front ++ (d'.opening.toList ++ (blanks ++ sigil.char :: inside)))) ≠
          outline (parse d (front ++ (d'.opening.toList ++ sigil.char :: inside))) :=
  ⟨fun _ _ _ hgap hsigil => outline_eq_of_blanks h hgap hblanks hsigil,
    fun _ _ _ hne hparse => outline_ne_of_blanks h hne hblanks hparse⟩

end Blanks

/-- A section with a letter before it. -/
def lettered : Spelling :=
  .text "y" <| .block false "a" .none (.text "x" .done) .none .done

theorem exists_parse_lettered : ∃ tokens,
    parse .standard ("y\x7b\x7b#a\x7d\x7dx\x7b\x7b/a\x7d\x7d").toList = .ok tokens := by
  have hparse := parse_print .standard lettered (by decide +kernel)
  have hprint : lettered.print .standard =
      ("y\x7b\x7b#a\x7d\x7dx\x7b\x7b/a\x7d\x7d").toList := by decide +kernel
  rw [hprint] at hparse
  cases h : parse .standard ("y\x7b\x7b#a\x7d\x7dx\x7b\x7b/a\x7d\x7d").toList with
  | error fault =>
    rw [h] at hparse
    cases hparse
  | ok tokens => exact ⟨tokens, rfl⟩

theorem reaches_lettered : Reaches .standard 0 ['y'] [.char 'y' 0] .standard :=
  .char (by decide +kernel) .here

theorem outline_of_blanks_lettered :
    outline (parse .standard "y\x7b\x7b#\n a\x7d\x7dx\x7b\x7b/a\x7d\x7d".toList) =
      outline (parse .standard "y\x7b\x7b#a\x7d\x7dx\x7b\x7b/a\x7d\x7d".toList) ∧
    outline (parse .standard "y\x7b\x7b\n #a\x7d\x7dx\x7b\x7b/a\x7d\x7d".toList) ≠
      outline (parse .standard "y\x7b\x7b#a\x7d\x7dx\x7b\x7b/a\x7d\x7d".toList) := by
  obtain ⟨tokens, hparse⟩ := exists_parse_lettered
  have hblanks : ∀ c ∈ ['\n', ' '], Text.isBlank c = true := List.all_eq_true.1 (by decide)
  obtain ⟨hbehind, hbefore⟩ := outline_of_blanks reaches_lettered hblanks
  exact ⟨hbehind (some .opening) [] "a\x7d\x7dx\x7b\x7b/a\x7d\x7d".toList nofun nofun,
    hbefore .opening "a\x7d\x7dx\x7b\x7b/a\x7d\x7d".toList tokens (List.cons_ne_nil _ _) hparse⟩

/-- Blanks in a tag may change a template: before a sigil they do. -/
theorem not_forall_outline_eq :
    ¬ ∀ (d d' : Delimiters) (front : List Char) (before : List Piece) (sigil : Sigil)
      (blanks inside : List Char), Reaches d 0 front before d' →
        (∀ c ∈ blanks, Text.isBlank c = true) →
          outline (parse d (front ++ (d'.opening.toList ++ (blanks ++ sigil.char :: inside)))) =
            outline (parse d (front ++ (d'.opening.toList ++ sigil.char :: inside))) := by
  intro hall
  obtain ⟨tokens, hparse⟩ := exists_parse_lettered
  have hblanks : ∀ c ∈ [' '], Text.isBlank c = true := List.all_eq_true.1 (by decide)
  have hsame := hall _ _ _ _ .opening [' '] "a\x7d\x7dx\x7b\x7b/a\x7d\x7d".toList reaches_lettered
    hblanks
  exact absurd hsame
    (outline_ne_of_blanks reaches_lettered (List.cons_ne_nil _ _) hblanks hparse)

end LiveTable.Template
