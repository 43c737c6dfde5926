import LiveTable.Proofs.Template.Scanning

/-!
# Tags do not look ahead

How a tag is read depends on its own characters and on nothing that follows them. So a text can be
cut behind any piece and read part by part, and more text can be put behind one that ends in a
blank, where no opening delimiter can begin.

* `before?_append_iff`, `Tag.take?_append_iff`, `StartsWithTag.append_iff`: what follows a literal
  or a tag makes no difference;
* `Scans.cut`: the text of some of the pieces is read as these pieces, without the rest;
* `Scan.prepend`: a scan with pieces in front;
* `Scans.scan_append`: behind a blank the scanner goes on as if the text started there;
* `Scans.isLineBreak_getLast?`: a text that ends in a line break ends in a piece that is one.
-/

namespace LiveTable.Template

/-! ### Literals -/

/-- A literal found in a text is found there, whatever follows the text. -/
theorem before?_append_right {literal cs before rest : List Char}
    (h : before? literal cs = some (before, rest)) (more : List Char) :
    before? literal (cs ++ more) = some (before, rest ++ more) := by
  induction cs generalizing before with
  | nil =>
    rw [before?] at h
    split at h
    · rename_i hnil
      cases h
      rw [hnil]
      cases more <;> rfl
    · cases h
  | cons c cs ih =>
    rw [before?] at h
    rw [List.cons_append, before?]
    cases hfound : literal.isPrefixOf? (c :: cs) with
    | some behind =>
      rw [hfound] at h
      cases h
      have hsplit : c :: (cs ++ more) = literal ++ (rest ++ more) := by
        rw [← List.cons_append, append_of_isPrefixOf? hfound, List.append_assoc]
      rw [hsplit, isPrefixOf?_append]
    | none =>
      simp only [hfound, Option.map_eq_some_iff, Prod.exists, Prod.mk.injEq] at h
      obtain ⟨front, back, hback, rfl, rfl⟩ := h
      -- the literal still stands in what is left, so it is too short to reach beyond that
      have hnone : literal.isPrefixOf? (c :: (cs ++ more)) = none := by
        rw [isPrefixOf?_eq_none] at hfound ⊢
        intro hfirst
        have hlength := congrArg List.length (append_of_before? hback)
        simp only [List.length_append] at hlength
        refine hfound (List.prefix_of_prefix_length_le hfirst
          (List.prefix_append (c :: cs) more) ?_)
        rw [List.length_cons]
        omega
      rw [hnone, ih hback]
      rfl

/-- A literal found before the text `more` is found without that text. -/
theorem before?_of_append {literal cs more before rest : List Char}
    (h : before? literal (cs ++ more) = some (before, rest ++ more)) :
    before? literal cs = some (before, rest) := by
  induction cs generalizing before with
  | nil =>
    have hlength := congrArg List.length (append_of_before? h)
    simp only [List.nil_append, List.length_append] at hlength
    obtain rfl : before = [] := List.length_eq_zero_iff.1 (by omega)
    obtain rfl : literal = [] := List.length_eq_zero_iff.1 (by omega)
    obtain rfl : rest = [] := List.length_eq_zero_iff.1 (by omega)
    rfl
  | cons c cs ih =>
    rw [List.cons_append, before?] at h
    cases hfound : literal.isPrefixOf? (c :: (cs ++ more)) with
    | some behind =>
      rw [hfound] at h
      cases h
      have hsplit : (literal ++ rest) ++ more = (c :: cs) ++ more := by
        simpa using (append_of_isPrefixOf? hfound).symm
      rw [before?, ← List.append_cancel_right hsplit, isPrefixOf?_append]
    | none =>
      simp only [hfound, Option.map_eq_some_iff, Prod.exists, Prod.mk.injEq] at h
      obtain ⟨front, back, hback, rfl, rfl⟩ := h
      have hnone : literal.isPrefixOf? (c :: cs) = none := by
        rw [isPrefixOf?_eq_none] at hfound ⊢
        exact fun hfirst => hfound (hfirst.trans (List.prefix_append (c :: cs) more))
      rw [before?, hnone, ih hback]
      rfl

/-- **A literal is found where it is first met**, whatever follows. -/
theorem before?_append_iff {literal cs more before rest : List Char} :
    before? literal (cs ++ more) = some (before, rest ++ more) ↔
      before? literal cs = some (before, rest) :=
  ⟨before?_of_append, fun h => before?_append_right h more⟩

/-! ### Tags -/

namespace Tag

variable {d : Delimiters} {cs more : List Char}

theorem takeSigil_append_of_ne_nil (h : cs ≠ []) (more : List Char) :
    takeSigil (cs ++ more) = ((takeSigil cs).1, (takeSigil cs).2.1, (takeSigil cs).2.2 ++ more) := by
  obtain ⟨c, cs, rfl⟩ := List.exists_cons_of_ne_nil h
  simp only [List.cons_append, takeSigil]
  split <;> rfl

/-- Nothing is no value. -/
theorem takeValue?_nil (d : Delimiters) (sigil : Option Sigil) : takeValue? d sigil [] = none := by
  unfold takeValue?
  split <;> simp [before?, d.closing_ne_nil]

/-- What follows the value of a tag makes no difference. -/
theorem takeValue?_append_iff {sigil : Option Sigil} {value written rest : List Char} :
    takeValue? d sigil (cs ++ more) = some (value, written, rest ++ more) ↔
      takeValue? d sigil cs = some (value, written, rest) := by
  unfold takeValue?
  split
  · simp only [Option.bind_eq_bind, Option.bind_eq_some_iff, Prod.exists, Option.pure_def,
      Option.some.injEq, Prod.mk.injEq]
    constructor
    · rintro ⟨front, back, hequals, padding, behind, hclosing, rfl, hwritten, rfl⟩
      have hback := append_of_before? hclosing
      rw [← List.append_assoc] at hback
      rw [hback, before?_append_iff] at hequals hclosing
      exact ⟨_, _, hequals, _, _, hclosing, rfl, hwritten, rfl⟩
    · rintro ⟨front, back, hequals, padding, behind, hclosing, rfl, hwritten, rfl⟩
      exact ⟨_, _, before?_append_iff.2 hequals, _, _, before?_append_iff.2 hclosing, rfl,
        hwritten, rfl⟩
  · simp only [Option.bind_eq_bind, Option.bind_eq_some_iff, Prod.exists, Option.pure_def,
      Option.some.injEq, Prod.mk.injEq]
    constructor
    · rintro ⟨front, back, hbrace, rfl, hwritten, rfl⟩
      exact ⟨_, _, before?_append_iff.1 hbrace, rfl, hwritten, rfl⟩
    · rintro ⟨front, back, hbrace, rfl, hwritten, rfl⟩
      exact ⟨_, _, before?_append_iff.2 hbrace, rfl, hwritten, rfl⟩
  · simp only [Option.bind_eq_bind, Option.bind_eq_some_iff, Prod.exists, Option.pure_def,
      Option.some.injEq, Prod.mk.injEq]
    constructor
    · rintro ⟨front, back, hclosing, rfl, hwritten, rfl⟩
      exact ⟨_, _, before?_append_iff.1 hclosing, rfl, hwritten, rfl⟩
    · rintro ⟨front, back, hclosing, rfl, hwritten, rfl⟩
      exact ⟨_, _, before?_append_iff.2 hclosing, rfl, hwritten, rfl⟩

/-- A tag is its sigil, blanks, and a value. -/
theorem take?_eq_some_iff {t : Tag} :
    take? d cs = some t ↔ ∃ value written,
      takeValue? d (takeSigil cs).1 ((takeSigil cs).2.2.dropWhile Text.isBlank) =
          some (value, written, t.rest) ∧
        t = ⟨(takeSigil cs).1, Text.trimEnd value,
          (takeSigil cs).2.1 ++ (takeSigil cs).2.2.takeWhile Text.isBlank ++ written, t.rest⟩ := by
  simp only [take?, Option.bind_eq_bind, Option.bind_eq_some_iff, Prod.exists, Option.pure_def,
    Option.some.injEq]
  constructor
  · rintro ⟨value, written, rest, hvalue, rfl⟩
    exact ⟨value, written, hvalue, rfl⟩
  · rintro ⟨value, written, hvalue, ht⟩
    exact ⟨value, written, t.rest, hvalue, ht.symm⟩

/-- A tag that ends before the text `more` has more than a sigil and blanks before it. -/
theorem dropWhile_takeSigil_ne_nil {t : Tag} {rest : List Char}
    (h : take? d (cs ++ more) = some t) (hrest : t.rest = rest ++ more) :
    (takeSigil cs).2.2.dropWhile Text.isBlank ≠ [] := by
  intro hblank
  obtain ⟨value, written, hvalue, -⟩ := take?_eq_some_iff.1 h
  have hsuffix : (takeSigil (cs ++ more)).2.2.dropWhile Text.isBlank <:+ more := by
    by_cases hcs : cs = []
    · rw [hcs, List.nil_append]
      exact (List.dropWhile_suffix _).trans ⟨_, takeSigil_append more⟩
    · rw [takeSigil_append_of_ne_nil hcs, List.dropWhile_append, hblank]
      exact List.dropWhile_suffix _
  -- what is left for the value is no longer than `more`, which the value leaves as it is
  obtain ⟨front, hfront⟩ := hsuffix
  have happend := takeValue?_append hvalue
  rw [← happend, hrest] at hfront
  have hlength := congrArg List.length hfront
  simp only [List.length_append] at hlength
  obtain rfl : written = [] := List.length_eq_zero_iff.1 (by omega)
  obtain rfl : rest = [] := List.length_eq_zero_iff.1 (by omega)
  rw [← happend, hrest] at hvalue
  have hnil := takeValue?_append_iff.1 hvalue
  rw [takeValue?_nil] at hnil
  cases hnil

/-- **How a tag is read does not depend on what follows it.** -/
theorem take?_append_iff {t : Tag} {rest : List Char} :
    take? d (cs ++ more) = some { t with rest := rest ++ more } ↔
      take? d cs = some { t with rest } := by
  by_cases hcore : (takeSigil cs).2.2.dropWhile Text.isBlank = []
  · refine iff_of_false (fun h => dropWhile_takeSigil_ne_nil h rfl hcore) (fun h => ?_)
    obtain ⟨value, written, hvalue, -⟩ := take?_eq_some_iff.1 h
    rw [hcore, takeValue?_nil] at hvalue
    cases hvalue
  · have hne : cs ≠ [] := by
      rintro rfl
      exact hcore rfl
    have hdrop : ((takeSigil cs).2.2 ++ more).dropWhile Text.isBlank =
        (takeSigil cs).2.2.dropWhile Text.isBlank ++ more := by
      rw [List.dropWhile_append, if_neg (by simpa using hcore)]
    have htake : ((takeSigil cs).2.2 ++ more).takeWhile Text.isBlank =
        (takeSigil cs).2.2.takeWhile Text.isBlank := by
      rw [List.takeWhile_append, if_neg]
      intro hlength
      have hsplit := congrArg List.length
        (List.takeWhile_append_dropWhile (p := Text.isBlank) (l := (takeSigil cs).2.2))
      rw [List.length_append, hlength] at hsplit
      exact hcore (List.length_eq_zero_iff.1 (by omega))
    simp only [take?_eq_some_iff, takeSigil_append_of_ne_nil hne, hdrop, htake,
      takeValue?_append_iff, mk.injEq, and_true]

/-- A tag is closed at its end. -/
theorem closing_suffix_written {t : Tag} (h : take? d cs = some t) :
    d.closing.toList <:+ t.written := by
  obtain ⟨value, written, hvalue, ht⟩ := take?_eq_some_iff.1 h
  have hwritten : d.closing.toList <:+ written := by
    unfold takeValue? at hvalue
    split at hvalue
    all_goals
      simp only [Option.bind_eq_bind, Option.bind_eq_some_iff, Prod.exists, Option.pure_def,
        Option.some.injEq, Prod.mk.injEq] at hvalue
    · obtain ⟨_, _, -, _, _, -, -, rfl, -⟩ := hvalue
      exact List.suffix_append _ _
    · obtain ⟨_, _, -, -, rfl, -⟩ := hvalue
      exact (List.suffix_cons _ _).trans (List.suffix_append _ _)
    · obtain ⟨_, _, -, -, rfl, -⟩ := hvalue
      exact List.suffix_append _ _
  rw [ht]
  exact hwritten.trans (List.suffix_append _ _)

end Tag

namespace StartsWithTag

variable {d : Delimiters} {position : Nat} {cs rest : List Char} {mark : Mark}

/-- **What follows a tag makes no difference to it.** -/
theorem append_iff {more : List Char} :
    StartsWithTag d position (cs ++ more) mark (rest ++ more) ↔
      StartsWithTag d position cs mark rest := by
  constructor
  · rintro ⟨t, hcs, htake, hrest, hmark⟩
    have hsplit : cs ++ more = d.opening.toList ++ (t.written ++ rest) ++ more := by
      simpa using hcs
    have ht : t = { t with rest := rest ++ more } := by rw [← hrest]
    rw [← List.append_assoc, ht] at htake
    exact ⟨{ t with rest }, List.append_cancel_right hsplit, Tag.take?_append_iff.1 htake, rfl,
      hmark⟩
  · rintro ⟨t, rfl, htake, hrest, hmark⟩
    refine ⟨{ t with rest := rest ++ more }, by simp, ?_, rfl, hmark⟩
    subst hrest
    rw [← List.append_assoc]
    exact Tag.take?_append_iff.2 htake

/-- A text that is one tag does not end in a blank. -/
theorem not_isBlank_of_getLast? (h : StartsWithTag d position cs mark []) :
    ∀ c ∈ cs.getLast?, Text.isBlank c = false := by
  obtain ⟨t, rfl, htake, -, -⟩ := h
  obtain ⟨front, hwritten⟩ := Tag.closing_suffix_written htake
  intro c hc
  rw [← hwritten, List.append_nil, ← List.append_assoc,
    List.getLast?_append_of_ne_nil _ d.closing_ne_nil] at hc
  exact d.not_isBlank_of_mem_closing (List.mem_of_mem_getLast? hc)

end StartsWithTag

/-! ### Texts -/

/-- What the last character of a text is, it is for every end of the text. -/
theorem forall_getLast?_of_append {α : Type} {p : α → Prop} {front back : List α}
    (h : ∀ a ∈ (front ++ back).getLast?, p a) : ∀ a ∈ back.getLast?, p a := by
  intro a ha
  have hne : back ≠ [] := List.ne_nil_of_mem (List.mem_of_mem_getLast? ha)
  rw [List.getLast?_append_of_ne_nil _ hne] at h
  exact h a ha

namespace Scans

variable {d : Delimiters} {position : Nat} {cs : List Char} {pieces : List Piece}

/-- **A text can be cut behind any piece**: what stands before is read as the pieces before, and what
stands behind as the pieces behind, with the delimiters then in force. -/
theorem cut {before after : List Piece} (h : Scans d position cs (before ++ after)) :
    ∃ front back, cs = front ++ back ∧ Scans d position front before ∧
      Scans (inForce d (tagsOf before)) (position + Text.byteSize front) back after := by
  induction before generalizing d position cs with
  | nil => exact ⟨[], cs, rfl, .done, h⟩
  | cons piece before ih =>
    rw [List.cons_append] at h
    cases h with
    | @char _ _ c cs _ hc rest =>
      obtain ⟨front, back, rfl, hfront, hback⟩ := ih rest
      refine ⟨c :: front, back, rfl, .char (fun hfirst => hc ?_) hfront, ?_⟩
      · exact hfirst.trans (List.prefix_append (c :: front) back)
      · rwa [Text.byteSize_cons, ← Nat.add_assoc]
    | @tag _ _ _ rest mark _ htag after =>
      obtain ⟨front, back, rfl, hfront, hback⟩ := ih after
      obtain ⟨written, rfl, -, -, hspan⟩ := htag.exists_written
      refine ⟨written ++ front, back, by simp, .tag ?_ hfront, ?_⟩
      · rw [← List.append_assoc] at htag
        exact StartsWithTag.append_iff.1 htag
      · rw [hspan] at hback
        rwa [Text.byteSize_append, ← Nat.add_assoc]

/-- Only a text without characters has no pieces. -/
theorem eq_nil (h : Scans d position cs []) : cs = [] := by
  cases h
  rfl

/-- A text that ends in a line break ends in a piece that is one: no tag ends in a blank. -/
theorem isLineBreak_getLast? (h : Scans d position cs pieces) (hcs : ∀ c ∈ cs.getLast?, c = '\n') :
    ∀ x ∈ pieces.getLast?, x.isLineBreak = true := by
  induction h with
  | done => exact nofun
  | @char d position c cs pieces hc rest ih =>
    by_cases hpieces : pieces = []
    · subst hpieces
      rw [rest.eq_nil] at hcs
      rw [hcs c rfl]
      rintro x ⟨⟩
      rfl
    · rw [List.getLast?_cons_of_ne_nil hpieces]
      exact ih (@forall_getLast?_of_append _ _ [c] cs hcs)
  | @tag d position cs rest mark pieces htag after ih =>
    by_cases hpieces : pieces = []
    · subst hpieces
      rw [after.eq_nil] at htag
      have hne : cs ≠ [] := by
        obtain ⟨written, rfl, hne, -, -⟩ := htag.exists_written
        simpa using hne
      obtain ⟨init, c, rfl⟩ := (List.eq_nil_or_concat' cs).resolve_left hne
      have hc := htag.not_isBlank_of_getLast? c (by simp)
      rw [hcs c (by simp)] at hc
      cases hc
    · obtain ⟨written, rfl, -, -, -⟩ := htag.exists_written
      rw [List.getLast?_cons_of_ne_nil hpieces]
      exact ih (forall_getLast?_of_append hcs)

end Scans

/-- The scan with pieces in front. -/
def Scan.prepend (pieces : List Piece) (s : Scan) : Scan := { s with pieces := pieces ++ s.pieces }

/-- Where a text ends in a blank no opening delimiter begins that ends in what follows. -/
theorem not_opening_append {d : Delimiters} {cs : List Char} (h : ¬ d.opening.toList <+: cs)
    (hne : cs ≠ []) (hblank : ∀ c ∈ cs.getLast?, Text.isBlank c = true) (more : List Char) :
    ¬ d.opening.toList <+: cs ++ more := by
  intro hfirst
  rcases Nat.le_total d.opening.toList.length cs.length with hle | hle
  · exact h (List.prefix_of_prefix_length_le hfirst (List.prefix_append cs more) hle)
  · have hinside := List.prefix_of_prefix_length_le (List.prefix_append cs more) hfirst hle
    obtain ⟨init, c, rfl⟩ := (List.eq_nil_or_concat' cs).resolve_left hne
    have hc := d.not_isBlank_of_mem_opening (hinside.subset (by simp : c ∈ init ++ [c]))
    rw [hblank c (by simp)] at hc
    cases hc

/-- **Behind a blank the scanner goes on as if the text started there.** -/
theorem Scans.scan_append {d : Delimiters} {position : Nat} {cs : List Char} {pieces : List Piece}
    (h : Scans d position cs pieces) (hblank : ∀ c ∈ cs.getLast?, Text.isBlank c = true)
    (more : List Char) :
    scan d position (cs ++ more) =
      (scan (inForce d (tagsOf pieces)) (position + Text.byteSize cs) more).prepend pieces := by
  induction h with
  | done => rfl
  | @char d position c cs pieces hc rest ih =>
    have hopening := not_opening_append hc (List.cons_ne_nil c cs) hblank more
    have hih := ih (@forall_getLast?_of_append _ _ [c] cs hblank)
    rw [List.cons_append] at hopening ⊢
    rw [scan_char hopening, hih, Text.byteSize_cons, Nat.add_assoc]
    rfl
  | @tag d position cs rest mark pieces htag after ih =>
    obtain ⟨written, rfl, -, -, hspan⟩ := htag.exists_written
    have hih := ih (forall_getLast?_of_append hblank)
    rw [scan_tag (StartsWithTag.append_iff.2 htag), hih, hspan, Text.byteSize_append, Nat.add_assoc]
    rfl

end LiveTable.Template
