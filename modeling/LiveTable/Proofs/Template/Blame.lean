import LiveTable.Proofs.Template.Spacing

/-!
# Where a fault lies

A text that is no template has a fault, and the place of the fault is that of the first tag at
fault: what stands before it is in order, and no text behind a whole tag at fault mends it. Only a
section that is never closed is a fault of the whole text; its place is its opening tag.

* `Reaches.scans`: what is read before a tag is read so without the tag;
* `WholeTag d written t`: the text is one tag from end to end;
* `exists_wholeTag`: so is every tag among the pieces of a text, whatever follows it;
* `parse_of_scans`: a text without a fault of its own may leave sections open;
* `ClosedIn name marks`: the section of that name is closed in what follows its opening tag;
* `exists_last_opening`: the innermost open section has an opening tag, and all behind it is closed;
* `Blamed`: what the place of a fault is;
* `exists_blamed`: every fault lies where it says.
-/

namespace LiveTable.Template

/-! ### What stands before a tag -/

/-- **What is read before a tag is read so without the tag**: no character of it was part of an
opening delimiter, and no tag in it needs more text. -/
theorem Reaches.scans {d d' : Delimiters} {position : Nat} {front : List Char}
    {before : List Piece} (h : Reaches d position front before d') :
    Scans d position front before := by
  induction h with
  | here => exact .done
  | @char d d' position c front before hc _ ih =>
    refine .char (fun hfirst => hc ?_) ih
    exact hfirst.trans (List.prefix_append (c :: front) _)
  | @tag d d' position written front mark before htag _ ih =>
    exact .tag (StartsWithTag.append_iff.2 htag : StartsWithTag d position (written ++ front) mark
      ([] ++ front)) ih

/-- A text without a fault of its own is a template, or leaves a section open. -/
theorem parse_of_scans {d : Delimiters} {text : List Char} {pieces : List Piece}
    (h : Scans d 0 text pieces) {opened : List OpenSection}
    (hopened : matchSections pieces = .ok opened) :
    (opened = [] ∧ ∃ tokens, parse d text = .ok tokens) ∨
      ∃ innermost outer, opened = innermost :: outer ∧
        parse d text = .error (.unclosedSection innermost.name innermost.span) := by
  rw [parse_eq_tree, h.scan_eq]
  simp only [Scan.tree, hopened]
  cases opened with
  | nil => exact .inl ⟨rfl, _, rfl⟩
  | cons innermost outer => exact .inr ⟨innermost, outer, rfl, rfl⟩

/-! ### Whole tags -/

/-- The text is one tag from end to end, read with the delimiters `d`. -/
def WholeTag (d : Delimiters) (written : List Char) (t : Tag) : Prop :=
  written = d.opening.toList ++ t.written ∧ Tag.take? d t.written = some t

namespace WholeTag

variable {d : Delimiters} {written : List Char} {t : Tag}

theorem ne_nil (h : WholeTag d written t) : written ≠ [] := by
  rw [h.1]
  simp [d.opening_ne_nil]

theorem opening_prefix (h : WholeTag d written t) : d.opening.toList <+: written := by
  rw [h.1]
  exact List.prefix_append _ _

/-- **A whole tag is read as it is, whatever follows it.** -/
theorem scan_append (h : WholeTag d written t) (position : Nat) (more : List Char) :
    scan d position (written ++ more) =
      match Mark.ofTag t ⟨position, position + Text.byteSize written⟩ with
      | .error fault => ⟨[], some fault⟩
      | .ok mark =>
        (scan (mark.delimitersAfter d) (position + Text.byteSize written) more).cons
          (.tag mark) := by
  obtain ⟨rfl, htake⟩ := h
  have hrest : t.rest = [] := List.append_right_eq_self.1 (Tag.written_append_rest htake)
  have hmore : Tag.take? d (t.written ++ more) = some { t with rest := [] ++ more } :=
    Tag.take?_append_iff.2 (by rwa [← hrest])
  have hsize : position + Text.byteSize (d.opening.toList ++ t.written) =
      position + Text.byteSize d.opening.toList + Text.byteSize t.written := by
    rw [Text.byteSize_append, Nat.add_assoc]
  rw [List.append_assoc, scan_opening (isPrefixOf?_append _ _), hmore, hsize]
  rfl

end WholeTag

/-- What is read as a tag is a whole tag and what follows it. -/
theorem exists_wholeTag {d : Delimiters} {inside : List Char} {t : Tag}
    (h : Tag.take? d inside = some t) :
    ∃ written t', WholeTag d written t' ∧ d.opening.toList ++ inside = written ++ t.rest := by
  have hinside := Tag.written_append_rest h
  refine ⟨d.opening.toList ++ t.written, { t with rest := [] }, ⟨rfl, ?_⟩, ?_⟩
  · refine Tag.take?_append_iff.1 (?_ : Tag.take? d (t.written ++ t.rest) = some _)
    rw [hinside, h]
    rfl
  · rw [List.append_assoc, hinside]

/-! ### Sections that are left open -/

/-- In what follows the opening tag of a section of that name the section is closed: what stands
before its closing tag is the marks of a tree. -/
def ClosedIn (name : String) (marks : List Mark) : Prop :=
  ∃ children inner span more, marks = inner ++ .closing name span :: more ∧ Unfolds children inner

theorem ClosedIn.append {name : String} {marks : List Mark} (h : ClosedIn name marks)
    (more : List Mark) : ClosedIn name (marks ++ more) := by
  obtain ⟨children, inner, span, rest, rfl, hinner⟩ := h
  exact ⟨children, inner, span, rest ++ more, by simp, hinner⟩

/-- Every section of a tree is closed in it. -/
theorem Unfolds.closedIn {tokens : List Token} {marks : List Mark} (h : Unfolds tokens marks)
    {front back : List Mark} {inverted : Bool} {name : String} {span : Span}
    (hsplit : marks = front ++ .opening inverted name span :: back) : ClosedIn name back := by
  induction h generalizing front back with
  | nil => simp at hsplit
  | leaf _ ih =>
    rcases List.cons_eq_append_iff.1 hsplit with ⟨rfl, hback⟩ | ⟨front', rfl, hmore⟩
    · cases hback
    · exact ih hmore
  | @block inverted' name' span' close stop children tokens inner marks inside more ihInside
      ihMore =>
    rcases List.cons_eq_append_iff.1 hsplit with ⟨rfl, hback⟩ | ⟨front', rfl, hmore⟩
    · obtain ⟨-, rfl⟩ := List.cons.inj hback
      cases hback
      exact ⟨children, inner, _, marks, rfl, inside⟩
    · -- the opening tag stands in the section or behind it
      rcases List.append_eq_append_iff.1 hmore with ⟨between, rfl, hbehind⟩ | ⟨between, rfl, hin⟩
      · rcases List.cons_eq_append_iff.1 hbehind with ⟨rfl, hback⟩ | ⟨between', rfl, hmarks⟩
        · cases hback
        · exact ihMore hmarks
      · rcases List.cons_eq_append_iff.1 hin with ⟨rfl, hback⟩ | ⟨between', rfl, rfl⟩
        · cases hback
        · exact (ihInside rfl).append _

/-- A section whose opening tag is followed by matched sections only is never closed. -/
theorem not_closedIn_of_matched {name : String} {marks : List Mark}
    (h : marks.foldlM matchMark [] = .ok []) : ¬ ClosedIn name marks := by
  rintro ⟨children, inner, span, more, rfl, hinner⟩
  rw [List.foldlM_append, hinner.foldlM_matchMark] at h
  cases h

theorem foldlM_matchMark_concat {marks : List Mark} {opened : List OpenSection}
    (h : marks.foldlM matchMark [] = .ok opened) (mark : Mark) :
    (marks ++ [mark]).foldlM matchMark [] = matchMark opened mark := by
  rw [List.foldlM_append, h]
  exact bind_pure (matchMark opened mark)

/-- A closing tag that is not at fault closes the innermost section. -/
theorem matchMark_closing_eq_ok {opened outer : List OpenSection} {name : String} {span : Span}
    (h : matchMark opened (.closing name span) = .ok outer) :
    ∃ innermost, opened = innermost :: outer ∧ innermost.name = name := by
  cases opened with
  | nil => cases h
  | cons innermost rest =>
    change (if innermost.name = name then _ else _) = _ at h
    split at h
    · rename_i hname
      cases h
      exact ⟨innermost, rfl, hname⟩
    · cases h

/-- Matched sections behind marks leave open what these leave open. -/
theorem foldlM_matchMark_append {marks back : List Mark} {opened : List OpenSection}
    (h : marks.foldlM matchMark [] = .ok opened) (hback : back.foldlM matchMark [] = .ok []) :
    (marks ++ back).foldlM matchMark [] = .ok opened := by
  rw [List.foldlM_append, h]
  exact (unfolds_nest hback).foldlM_matchMark opened

/-- **The innermost open section has an opening tag**, and all sections behind it are matched. -/
theorem exists_last_opening {marks : List Mark} {innermost : OpenSection}
    {outer : List OpenSection} (h : marks.foldlM matchMark [] = .ok (innermost :: outer)) :
    ∃ front inverted back,
      marks = front ++ .opening inverted innermost.name innermost.span :: back ∧
        front.foldlM matchMark [] = .ok outer ∧ back.foldlM matchMark [] = .ok [] := by
  -- by the length, as a closing tag at the end takes back an opening tag somewhere before it
  induction hlength : marks.length using Nat.strong_induction_on generalizing marks innermost outer
  rename_i length ih
  subst hlength
  rcases List.eq_nil_or_concat' marks with rfl | ⟨init, mark, rfl⟩
  · cases h
  cases hinit : init.foldlM matchMark [] with
  | error fault =>
    rw [List.foldlM_append, hinit] at h
    cases h
  | ok opened =>
    rw [foldlM_matchMark_concat hinit] at h
    have hshorter : init.length < (init ++ [mark]).length := by simp
    cases mark with
    | leaf l span =>
      obtain rfl : opened = innermost :: outer := Except.ok.inj h
      obtain ⟨front, inverted, back, rfl, hfront, hback⟩ := ih _ hshorter hinit rfl
      refine ⟨front, inverted, back ++ [.leaf l span], by simp, hfront, ?_⟩
      rw [foldlM_matchMark_concat hback]
      rfl
    | opening inverted name span =>
      obtain ⟨rfl, rfl⟩ := List.cons.inj (Except.ok.inj h)
      exact ⟨init, inverted, [], rfl, hinit, rfl⟩
    | closing name span =>
      -- what the tag closes was opened behind the section that stays open
      obtain ⟨closed, rfl, rfl⟩ := matchMark_closing_eq_ok h
      obtain ⟨before, inverted', inside, rfl, hbefore, hinside⟩ := ih _ hshorter hinit rfl
      obtain ⟨front, inverted, back, rfl, hfront, hback⟩ := ih _ (by simp) hbefore rfl
      refine ⟨front, inverted, back ++ (.opening inverted' closed.name closed.span ::
        (inside ++ [.closing closed.name span])), by simp, hfront, ?_⟩
      have hblock : Unfolds [.block inverted' closed.name closed.span (nest inside) span.start]
          (.opening inverted' closed.name closed.span ::
            (inside ++ [.closing closed.name ⟨span.start, span.stop⟩])) :=
        .block (unfolds_nest hinside) .nil
      exact foldlM_matchMark_append hback (hblock.foldlM_matchMark [])

/-! ### The place of a tag -/

section Place

variable {d : Delimiters} {source : List Char} {before : List Piece}

/-- A tag among the pieces of a text is a whole tag in the text, come to with the delimiters in
force that the tags before it leave. -/
theorem exists_place_of_tag {after : List Piece} {mark : Mark}
    (h : (scan d 0 source).pieces = before ++ .tag mark :: after) :
    ∃ front written back t, source = front ++ (written ++ back) ∧
      Reaches d 0 front before (inForce d (tagsOf before)) ∧
      WholeTag (inForce d (tagsOf before)) written t ∧
      Mark.ofTag t ⟨Text.byteSize front, Text.byteSize front + Text.byteSize written⟩ =
        .ok mark := by
  obtain ⟨front, inside, rfl, hreaches⟩ := exists_reaches d 0 source _ before h (.inl ⟨_, _, rfl⟩)
  rw [hreaches.scan_eq, Nat.zero_add] at h
  have hnext := List.append_cancel_left h
  cases htake : Tag.take? (inForce d (tagsOf before)) inside with
  | none =>
    rw [scan_opening (isPrefixOf?_append _ _), htake] at hnext
    cases hnext
  | some tag =>
    obtain ⟨written, t, hwhole, hsplit⟩ := exists_wholeTag htake
    rw [hsplit, hwhole.scan_append] at hnext
    refine ⟨front, written, tag.rest, t, by rw [hsplit], hreaches, hwhole, ?_⟩
    split at hnext
    · cases hnext
    · rename_i hmark
      rw [hmark, Piece.tag.inj (List.cons.inj hnext).1]

/-- At the place of a scanning fault there is a tag that is never closed, or a whole tag that is at
fault. -/
theorem exists_place_of_fault {fault : Fault} (hbefore : (scan d 0 source).pieces = before)
    (h : (scan d 0 source).fault = some fault) :
    ∃ front, Reaches d 0 front before (inForce d (tagsOf before)) ∧
      ((∃ back, source = front ++ ((inForce d (tagsOf before)).opening.toList ++ back) ∧
          fault = .unclosedTag (Text.byteSize source) (inForce d (tagsOf before)).closing
            ⟨Text.byteSize front, Text.byteSize front +
              Text.byteSize (inForce d (tagsOf before)).opening.toList⟩) ∨
        ∃ written back t, source = front ++ (written ++ back) ∧
          WholeTag (inForce d (tagsOf before)) written t ∧
          Mark.ofTag t ⟨Text.byteSize front, Text.byteSize front + Text.byteSize written⟩ =
            .error fault) := by
  have hpieces : (scan d 0 source).pieces = before ++ [] := by rw [hbefore, List.append_nil]
  obtain ⟨front, inside, rfl, hreaches⟩ :=
    exists_reaches d 0 source [] before hpieces (.inr ⟨rfl, by simp [h]⟩)
  rw [hreaches.scan_eq, Nat.zero_add] at hbefore h
  have hnext := List.append_right_eq_self.1 hbefore
  refine ⟨front, hreaches, ?_⟩
  cases htake : Tag.take? (inForce d (tagsOf before)) inside with
  | none =>
    rw [scan_opening (isPrefixOf?_append _ _), htake] at h
    cases h
    exact .inl ⟨inside, rfl, by simp only [Text.byteSize_append, Nat.add_assoc]⟩
  | some tag =>
    obtain ⟨written, t, hwhole, hsplit⟩ := exists_wholeTag htake
    rw [hsplit, hwhole.scan_append] at hnext h
    refine .inr ⟨written, tag.rest, t, by rw [hsplit], hwhole, ?_⟩
    cases hmark : Mark.ofTag t
      ⟨Text.byteSize front, Text.byteSize front + Text.byteSize written⟩ with
    | error fault' =>
      rw [Scan.prepend, hmark] at h
      cases h
      rfl
    | ok mark =>
      rw [hmark] at hnext
      cases hnext

end Place

/-! ### Tags at fault -/

/-- The fault that scanning comes to counts if the sections before it are matched. -/
theorem Scan.tree_prepend_of_fault {pieces : List Piece} {opened : List OpenSection}
    (h : matchSections pieces = .ok opened) (fault : Fault) :
    (Scan.prepend pieces ⟨[], some fault⟩).tree = .error fault := by
  rw [Scan.prepend, Scan.tree, List.append_nil, h]
  rfl

/-- A closing tag at fault counts, whatever comes behind it. -/
theorem Scan.tree_prepend_of_unmatched {pieces : List Piece} {opened : List OpenSection}
    {mark : Mark} {fault : Fault} (h : matchSections pieces = .ok opened)
    (hfault : matchSection opened (.tag mark) = .error fault) (s : Scan) :
    ((s.cons (.tag mark)).prepend pieces).tree = .error fault := by
  have hmatch : matchSections (pieces ++ .tag mark :: s.pieces) = .error fault := by
    rw [matchSections_append h, List.foldlM_cons, hfault]
    rfl
  rw [Scan.prepend, Scan.cons, Scan.tree, hmatch]
  rfl

/-- A tag is at fault if it closes what is not the innermost open section, or changes the delimiters
to what is no pair. -/
theorem fault_of_tag {opened : List OpenSection} {t : Tag} {span : Span} {fault : Fault}
    (h : (Mark.ofTag t span >>= fun mark => matchSection opened (.tag mark)) = .error fault) :
    (t.sigil = some .closing ∧
        ∃ expected, fault = .unmatchedSection (String.ofList t.value) expected span) ∨
      t.sigil = some .delimiters ∧
        fault = .malformedDelimiters (String.ofList t.value) (some span) := by
  unfold Mark.ofTag at h
  cases hsigil : t.sigil with
  | none =>
    simp only [hsigil] at h
    cases h
  | some sigil =>
    simp only [hsigil] at h
    cases sigil with
    | closing =>
      cases opened with
      | nil =>
        cases h
        exact .inl ⟨rfl, none, rfl⟩
      | cons innermost outer =>
        change (if innermost.name = String.ofList t.value then _ else _) = _ at h
        split at h
        · cases h
        · cases h
          exact .inl ⟨rfl, some innermost.name, rfl⟩
    | delimiters =>
      dsimp only at h
      split at h
      · cases h
      · cases h
        exact .inr ⟨rfl, rfl⟩
    | _ => cases h

/-- **No text behind a tag at fault mends it.** -/
theorem parse_eq_error_of_tag {d d' : Delimiters} {front written : List Char}
    {before : List Piece} {t : Tag} {fault : Fault} (hreaches : Reaches d 0 front before d')
    {opened : List OpenSection} (hopened : matchSections before = .ok opened)
    (hwhole : WholeTag d' written t)
    (hfault : (Mark.ofTag t ⟨Text.byteSize front, Text.byteSize front + Text.byteSize written⟩ >>=
      fun mark => matchSection opened (.tag mark)) = .error fault) (more : List Char) :
    parse d (front ++ (written ++ more)) = .error fault := by
  have hsplit : written ++ more = d'.opening.toList ++ (t.written ++ more) := by
    rw [hwhole.1, List.append_assoc]
  have hscan := hreaches.scan_eq (t.written ++ more)
  rw [← hsplit, Nat.zero_add, hwhole.scan_append] at hscan
  rw [parse_eq_tree, hscan]
  cases hmark : Mark.ofTag t ⟨Text.byteSize front, Text.byteSize front + Text.byteSize written⟩ with
  | error fault' =>
    rw [hmark] at hfault
    cases hfault
    exact Scan.tree_prepend_of_fault hopened fault
  | ok mark =>
    rw [hmark] at hfault
    exact Scan.tree_prepend_of_unmatched hopened hfault _

/-! ### The first fault -/

/-- The first piece at fault is a tag, and up to it all is in order. -/
theorem exists_first_fault {pieces : List Piece} {opened : List OpenSection} {fault : Fault}
    (h : pieces.foldlM matchSection opened = .error fault) :
    ∃ before mark after opened', pieces = before ++ .tag mark :: after ∧
      before.foldlM matchSection opened = .ok opened' ∧
      matchSection opened' (.tag mark) = .error fault := by
  induction pieces generalizing opened with
  | nil => cases h
  | cons piece pieces ih =>
    rw [List.foldlM_cons] at h
    cases hpiece : matchSection opened piece with
    | error fault' =>
      rw [hpiece] at h
      cases h
      cases piece with
      | char c start => cases hpiece
      | tag mark => exact ⟨[], mark, pieces, opened, rfl, rfl, hpiece⟩
    | ok opened' =>
      rw [hpiece] at h
      obtain ⟨before, mark, after, opened'', rfl, hbefore, hmark⟩ := ih h
      refine ⟨piece :: before, mark, after, opened'', rfl, ?_, hmark⟩
      rw [List.foldlM_cons, hpiece]
      exact hbefore

/-- A fault is that of a closing tag, that of the tag at which the scanner gave up, or a section
that is left open by a text which is scanned to its end. -/
theorem cases_of_parse_eq_error {d : Delimiters} {source : List Char} {fault : Fault}
    (h : parse d source = .error fault) :
    matchSections (scan d 0 source).pieces = .error fault ∨
      (∃ opened, matchSections (scan d 0 source).pieces = .ok opened ∧
        (scan d 0 source).fault = some fault) ∨
      ∃ innermost outer, matchSections (scan d 0 source).pieces = .ok (innermost :: outer) ∧
        (scan d 0 source).fault = none ∧
        fault = .unclosedSection innermost.name innermost.span := by
  rw [parse_eq_tree] at h
  cases hmatch : matchSections (scan d 0 source).pieces with
  | error fault' =>
    simp only [Scan.tree, hmatch] at h
    cases h
    exact .inl rfl
  | ok opened =>
    cases hfault : (scan d 0 source).fault with
    | some fault' =>
      simp only [Scan.tree, hmatch, hfault] at h
      cases h
      exact .inr (.inl ⟨opened, rfl, rfl⟩)
    | none =>
      cases opened with
      | nil =>
        simp only [Scan.tree, hmatch, hfault] at h
        cases h
      | cons innermost outer =>
        simp only [Scan.tree, hmatch, hfault] at h
        cases h
        exact .inr (.inr ⟨innermost, outer, rfl, rfl, rfl⟩)

/-- The opening tags of sections have their sigils and their names. -/
theorem sigil_of_ofTag_opening {t : Tag} {span span' : Span} {inverted : Bool} {name : String}
    (h : Mark.ofTag t span = .ok (.opening inverted name span')) :
    t.sigil = some (if inverted then .inverted else .opening) ∧ String.ofList t.value = name ∧
      span' = span := by
  unfold Mark.ofTag at h
  cases hsigil : t.sigil with
  | none =>
    simp only [hsigil] at h
    cases h
  | some sigil =>
    simp only [hsigil] at h
    cases sigil with
    | opening | inverted =>
      cases h
      exact ⟨rfl, rfl, rfl⟩
    | delimiters =>
      dsimp only at h
      split at h <;> cases h
    | _ => cases h

/-- **The place of a fault.** The text is `front`, what stands at the place, and `back`, and `t` are
the delimiters in force behind `front`. -/
structure Blamed (d : Delimiters) (source : List Char) (fault : Fault)
    (front written back : List Char) (t : Delimiters) : Prop where
  source_eq : source = front ++ (written ++ back)
  span_eq : fault.span? =
    some ⟨Text.byteSize front, Text.byteSize front + Text.byteSize written⟩
  ne_nil : written ≠ []
  /-- What stands before the place is scanned without a fault, and `t` is in force behind it. -/
  delimiters : ∃ before, Scans d 0 front before ∧ inForce d (tagsOf before) = t
  /-- A tag starts at the place. -/
  opening : t.opening.toList <+: written
  /-- What stands before the place is a template, or one that needs more text. -/
  before : (∃ tokens, parse d front = .ok tokens) ∨
    ∃ name span, parse d front = .error (.unclosedSection name span)
  /-- A closing tag that closes no section stands at the place from end to end, and no text behind
  it mends it. -/
  unmatchedSection : ∀ name expected span, fault = .unmatchedSection name expected span →
    (∃ tag, WholeTag t written tag ∧ tag.sigil = some .closing ∧
      String.ofList tag.value = name) ∧
      ∀ more, parse d (front ++ (written ++ more)) = .error fault
  /-- So does a tag that changes the delimiters to what is no pair. -/
  malformedDelimiters : ∀ found span, fault = .malformedDelimiters found span →
    (∃ tag, WholeTag t written tag ∧ tag.sigil = some .delimiters ∧
      String.ofList tag.value = found) ∧
      ∀ more, parse d (front ++ (written ++ more)) = .error fault
  /-- The place of a tag that is never closed is its opening delimiter, and the scanner gives up at
  the end of the text. -/
  unclosedTag : ∀ position closing span, fault = .unclosedTag position closing span →
    written = t.opening.toList ∧ position = Text.byteSize source ∧ closing = t.closing
  /-- The whole text is scanned without a fault, and no closing tag in it is at fault. The opening
  tag of a section stands at the place from end to end; this section is never closed, and every
  section that is opened behind it is closed. -/
  unclosedSection : ∀ name span, fault = .unclosedSection name span →
    ∃ pieces inverted outside inside, Scans d 0 source pieces ∧
      (∃ opened, matchSections pieces = .ok opened) ∧
      (∃ tag, WholeTag t written tag ∧
        tag.sigil = some (if inverted then .inverted else .opening) ∧
        String.ofList tag.value = name) ∧
      tagsOf pieces = outside ++ .opening inverted name span :: inside ∧
      ¬ ClosedIn name inside ∧
      ∀ skipped inverted' name' span' more,
        inside = skipped ++ .opening inverted' name' span' :: more → ClosedIn name' more

/-- What stands before a tag is a template, or leaves a section open. -/
theorem Reaches.parse_front {d d' : Delimiters} {front : List Char} {before : List Piece}
    (h : Reaches d 0 front before d') {opened : List OpenSection}
    (hopened : matchSections before = .ok opened) :
    (∃ tokens, parse d front = .ok tokens) ∨
      ∃ name span, parse d front = .error (.unclosedSection name span) := by
  obtain ⟨-, hok⟩ | ⟨innermost, -, -, herror⟩ := parse_of_scans h.scans hopened
  · exact .inl hok
  · exact .inr ⟨innermost.name, innermost.span, herror⟩

section Cases

variable {d : Delimiters} {front written back : List Char} {before : List Piece}
  {opened : List OpenSection}

/-- The place of a fault is that of the tag at fault. -/
theorem blamed_of_tag {t : Tag} {fault : Fault}
    (hreaches : Reaches d 0 front before (inForce d (tagsOf before)))
    (hopened : matchSections before = .ok opened)
    (hwhole : WholeTag (inForce d (tagsOf before)) written t)
    (hfault : (Mark.ofTag t ⟨Text.byteSize front, Text.byteSize front + Text.byteSize written⟩ >>=
      fun mark => matchSection opened (.tag mark)) = .error fault) (back : List Char) :
    Blamed d (front ++ (written ++ back)) fault front written back (inForce d (tagsOf before)) := by
  have hmore := parse_eq_error_of_tag hreaches hopened hwhole hfault
  obtain ⟨hsigil, expected, rfl⟩ | ⟨hsigil, rfl⟩ := fault_of_tag hfault
  · refine ⟨rfl, rfl, hwhole.ne_nil, ⟨before, hreaches.scans, rfl⟩, hwhole.opening_prefix,
      hreaches.parse_front hopened, ?_, nofun, nofun, nofun⟩
    rintro name _ span ⟨⟩
    exact ⟨⟨t, hwhole, hsigil, rfl⟩, hmore⟩
  · refine ⟨rfl, rfl, hwhole.ne_nil, ⟨before, hreaches.scans, rfl⟩, hwhole.opening_prefix,
      hreaches.parse_front hopened, nofun, ?_, nofun, nofun⟩
    rintro found span ⟨⟩
    exact ⟨⟨t, hwhole, hsigil, rfl⟩, hmore⟩

/-- The place of a fault is the opening delimiter of a tag that is never closed. -/
theorem blamed_of_unclosedTag
    (hreaches : Reaches d 0 front before (inForce d (tagsOf before)))
    (hopened : matchSections before = .ok opened)
    (hwritten : written = (inForce d (tagsOf before)).opening.toList) (back : List Char) :
    Blamed d (front ++ (written ++ back))
      (.unclosedTag (Text.byteSize (front ++ (written ++ back)))
        (inForce d (tagsOf before)).closing
        ⟨Text.byteSize front, Text.byteSize front + Text.byteSize written⟩)
      front written back (inForce d (tagsOf before)) := by
  subst hwritten
  refine ⟨rfl, rfl, Delimiters.opening_ne_nil _, ⟨before, hreaches.scans, rfl⟩, List.prefix_rfl,
    hreaches.parse_front hopened, nofun, nofun, ?_, nofun⟩
  rintro position closing span ⟨⟩
  exact ⟨rfl, rfl, rfl⟩

end Cases

/-- The place of a section that is left open is its opening tag. -/
theorem exists_blamed_of_unclosedSection {d : Delimiters} {source : List Char}
    {pieces : List Piece} {innermost : OpenSection} {outer : List OpenSection}
    (hscans : Scans d 0 source pieces) (h : matchSections pieces = .ok (innermost :: outer)) :
    ∃ front written back t, Blamed d source (.unclosedSection innermost.name innermost.span)
      front written back t := by
  have hmatch : (tagsOf pieces).foldlM matchMark [] = .ok (innermost :: outer) := by
    rw [← foldlM_matchSection]
    exact h
  obtain ⟨outside, inverted, inside, htags, houtside, hinside⟩ := exists_last_opening hmatch
  obtain ⟨before, after, hpieces, rfl⟩ := exists_of_tagsOf_eq htags
  have hbefore : matchSections before = .ok outer := by
    rw [matchSections, foldlM_matchSection]
    exact houtside
  have hplace : (scan d 0 source).pieces =
      before ++ .tag (.opening inverted innermost.name innermost.span) :: after := by
    rw [hscans.scan_eq]
    exact hpieces
  obtain ⟨front, written, back, tag, hsource, hreaches, hwhole, hmark⟩ :=
    exists_place_of_tag hplace
  obtain ⟨hsigil, hname, hspan⟩ := sigil_of_ofTag_opening hmark
  refine ⟨front, written, back, _, hsource, congrArg some hspan, hwhole.ne_nil,
    ⟨before, hreaches.scans, rfl⟩, hwhole.opening_prefix, hreaches.parse_front hbefore, ?_, ?_, ?_,
    ?_⟩
  · intro name expected span hfault
    cases hfault
  · intro found span hfault
    cases hfault
  · intro position closing span hfault
    cases hfault
  · rintro name span ⟨⟩
    exact ⟨pieces, inverted, tagsOf before, inside, hscans, ⟨_, h⟩, ⟨tag, hwhole, hsigil, hname⟩,
      htags, not_closedIn_of_matched hinside,
      fun _ _ _ _ _ hsplit => (unfolds_nest hinside).closedIn hsplit⟩

/-- **Every fault names the first tag at fault.** -/
theorem exists_blamed {d : Delimiters} {source : List Char} {fault : Fault}
    (h : parse d source = .error fault) :
    ∃ front written back t, Blamed d source fault front written back t := by
  obtain hunmatched | ⟨opened, hopened, hfault⟩ | ⟨innermost, outer, hopened, hfault, rfl⟩ :=
    cases_of_parse_eq_error h
  · obtain ⟨before, mark, after, opened, hpieces, hopened, hmark⟩ := exists_first_fault hunmatched
    obtain ⟨front, written, back, t, rfl, hreaches, hwhole, hplace⟩ := exists_place_of_tag hpieces
    refine ⟨front, written, back, _, blamed_of_tag hreaches hopened hwhole ?_ back⟩
    rw [hplace]
    exact hmark
  · generalize hbefore : (scan d 0 source).pieces = before at hopened
    obtain ⟨front, hreaches, ⟨back, rfl, rfl⟩ | ⟨written, back, t, rfl, hwhole, hplace⟩⟩ :=
      exists_place_of_fault hbefore hfault
    · exact ⟨front, _, back, _, blamed_of_unclosedTag hreaches hopened rfl back⟩
    · refine ⟨front, written, back, _, blamed_of_tag hreaches hopened hwhole ?_ back⟩
      rw [hplace]
      rfl
  · exact exists_blamed_of_unclosedSection (scans_of_scan d 0 source hfault) hopened

/-- A section under delimiters of its own, in which another section is closed. -/
def mismatched : List Char := "É\x7b\x7b=<% %>=\x7d\x7d<%#cast%>of <%/film%>y".toList

/-- A section under delimiters of its own that is never closed, and one inside it that is. -/
def halfOpen : List Char :=
  "É\x7b\x7b=<% %>=\x7d\x7d<%#cast%>of <%^film%>y<%/film%>".toList

theorem exists_blamed_mismatched :
    (parse .standard mismatched =
        .error (.unmatchedSection "film" (some "cast") ⟨25, 34⟩) ∧
      ∃ front written back t, Blamed .standard mismatched
        (.unmatchedSection "film" (some "cast") ⟨25, 34⟩) front written back t) ∧
    parse .standard halfOpen = .error (.unclosedSection "cast" ⟨13, 22⟩) ∧
      ∃ front written back t,
        Blamed .standard halfOpen (.unclosedSection "cast" ⟨13, 22⟩) front written back t := by
  have hmismatched : parse .standard mismatched =
      .error (.unmatchedSection "film" (some "cast") ⟨25, 34⟩) := by
    with_unfolding_all rfl
  have hhalfOpen : parse .standard halfOpen = .error (.unclosedSection "cast" ⟨13, 22⟩) := by
    with_unfolding_all rfl
  exact ⟨⟨hmismatched, exists_blamed hmismatched⟩, hhalfOpen, exists_blamed hhalfOpen⟩

end LiveTable.Template
