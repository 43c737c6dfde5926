import LiveTable.Template.Piece
import Mathlib.Data.List.Chain

/-!
# Scanning, as a judgement

A text without a fault is read piece by piece: a character where the opening delimiter in force
does not occur, a tag where it does. The pieces lie side by side and cover the text.

* `inForce d marks`: the delimiters in force after the marks;
* `StartsWithTag d position cs mark rest`: the text starts with a tag that is `mark`;
* `Scans d position cs pieces`: the pieces are those of the text;
* `scan_char`, `scan_tag`: what the scanner takes first;
* `scan_eq_iff`: the scanner finds the pieces of the judgement, and no others;
* `Scans.split`: the text behind a piece is read with the delimiters then in force;
* `Tiles a pieces b`: the pieces lie side by side from the offset `a` to the offset `b`.
-/

namespace LiveTable.Template

/-! ### Tags among marks and pieces -/

namespace Mark

/-- The mark is a tag and no text. -/
def isTag : Mark → Bool
  | leaf (.text _) _ => false
  | _ => true

theorem delimitersAfter_of_text {mark : Mark} (d : Delimiters) (h : mark.isTag = false) :
    mark.delimitersAfter d = d := by
  rcases mark with ⟨_ | _ | _ | _ | _ | _, _⟩ | _ | _ <;> first | rfl | cases h

/-- Texts write no value. -/
theorem isValue_of_text {mark : Mark} (h : mark.isTag = false) : mark.isValue = false := by
  rcases mark with ⟨_ | _ | _ | _ | _ | _, _⟩ | _ | _ <;> first | rfl | cases h

/-- A tag as written gives a tag, in the place where it is written. -/
theorem isTag_of_ofTag {t : Tag} {span : Span} {mark : Mark} (h : ofTag t span = .ok mark) :
    mark.isTag = true ∧ mark.span = span := by
  unfold ofTag at h
  split at h
  all_goals first
    | (cases h; exact ⟨rfl, rfl⟩)
    | (split at h <;> cases h; exact ⟨rfl, rfl⟩)

end Mark

/-- The delimiters in force after the marks, `d` being in force before them. -/
def inForce (d : Delimiters) (marks : List Mark) : Delimiters :=
  marks.foldl (fun d mark => mark.delimitersAfter d) d

@[simp] theorem inForce_nil (d : Delimiters) : inForce d [] = d := rfl

@[simp] theorem inForce_cons (d : Delimiters) (mark : Mark) (marks : List Mark) :
    inForce d (mark :: marks) = inForce (mark.delimitersAfter d) marks := rfl

/-- Texts do not change delimiters. -/
theorem inForce_filter_isTag (d : Delimiters) (marks : List Mark) :
    inForce d (marks.filter Mark.isTag) = inForce d marks := by
  induction marks generalizing d with
  | nil => rfl
  | cons mark marks ih =>
    cases h : mark.isTag with
    | true => rw [List.filter_cons_of_pos h, inForce_cons, inForce_cons, ih]
    | false =>
      rw [List.filter_cons_of_neg (by simp [h]), inForce_cons, ih,
        Mark.delimitersAfter_of_text d h]

namespace Piece

/-- The mark of a tag. -/
def mark? : Piece → Option Mark
  | char _ _ => none
  | tag mark => some mark

/-- The place of a piece. -/
def span : Piece → Span
  | char c start => ⟨start, start + c.utf8Size⟩
  | tag mark => mark.span

@[simp] theorem span_char (c : Char) (start : Nat) :
    (char c start).span = ⟨start, start + c.utf8Size⟩ := rfl

@[simp] theorem span_tag (mark : Mark) : (tag mark).span = mark.span := rfl

end Piece

/-- The tags among the pieces. -/
def tagsOf (pieces : List Piece) : List Mark := pieces.filterMap Piece.mark?

@[simp] theorem tagsOf_nil : tagsOf [] = [] := rfl

@[simp] theorem tagsOf_char (c : Char) (start : Nat) (pieces : List Piece) :
    tagsOf (.char c start :: pieces) = tagsOf pieces := rfl

@[simp] theorem tagsOf_tag (mark : Mark) (pieces : List Piece) :
    tagsOf (.tag mark :: pieces) = mark :: tagsOf pieces := rfl

@[simp] theorem tagsOf_append (a b : List Piece) : tagsOf (a ++ b) = tagsOf a ++ tagsOf b :=
  List.filterMap_append

theorem mem_tagsOf {mark : Mark} {pieces : List Piece} :
    mark ∈ tagsOf pieces ↔ .tag mark ∈ pieces := by
  simp only [tagsOf, List.mem_filterMap]
  constructor
  · rintro ⟨_ | m, hp, h⟩ <;> cases h
    exact hp
  · exact fun h => ⟨_, h, rfl⟩

/-- A place among the tags is a place among the pieces. -/
theorem exists_of_tagsOf_eq {pieces : List Piece} {front back : List Mark} {mark : Mark}
    (h : tagsOf pieces = front ++ mark :: back) :
    ∃ before after, pieces = before ++ .tag mark :: after ∧ tagsOf before = front := by
  obtain ⟨before, more, rfl, hbefore, hmore⟩ := List.filterMap_eq_append_iff.1 h
  obtain ⟨skipped, piece, after, rfl, hskipped, hpiece, -⟩ := List.filterMap_eq_cons_iff.1 hmore
  obtain rfl : piece = .tag mark := by
    cases piece with
    | char c start => cases hpiece
    | tag m => cases hpiece; rfl
  refine ⟨before ++ skipped, after, by simp, ?_⟩
  have hnone : tagsOf skipped = [] := List.filterMap_eq_nil_iff.2 hskipped
  rw [tagsOf_append, hnone, List.append_nil]
  exact hbefore

/-! ### The judgement -/

/-- The text `cs`, which stands at `position`, starts with a tag that is `mark`, and `rest` follows
it. -/
def StartsWithTag (d : Delimiters) (position : Nat) (cs : List Char) (mark : Mark)
    (rest : List Char) : Prop :=
  ∃ t : Tag, cs = d.opening.toList ++ (t.written ++ rest) ∧
    Tag.take? d (t.written ++ rest) = some t ∧ t.rest = rest ∧
    Mark.ofTag t ⟨position, position + Text.byteSize (d.opening.toList ++ t.written)⟩ = .ok mark

/-- The pieces are those of the text `cs`, which stands at `position` with the delimiters `d` in
force. -/
inductive Scans : Delimiters → Nat → List Char → List Piece → Prop where
  | done {d : Delimiters} {position : Nat} : Scans d position [] []
  | char {d : Delimiters} {position : Nat} {c : Char} {cs : List Char} {pieces : List Piece}
      (hc : ¬ d.opening.toList <+: c :: cs)
      (rest : Scans d (position + c.utf8Size) cs pieces) :
      Scans d position (c :: cs) (.char c position :: pieces)
  | tag {d : Delimiters} {position : Nat} {cs rest : List Char} {mark : Mark}
      {pieces : List Piece} (htag : StartsWithTag d position cs mark rest)
      (after : Scans (mark.delimitersAfter d) mark.span.stop rest pieces) :
      Scans d position cs (.tag mark :: pieces)

namespace StartsWithTag

variable {d : Delimiters} {position : Nat} {cs rest : List Char} {mark : Mark}

/-- The tag stands at its start, and its text reaches to its stop. -/
theorem exists_written (h : StartsWithTag d position cs mark rest) :
    ∃ written, cs = written ++ rest ∧ written ≠ [] ∧ mark.isTag = true ∧
      mark.span = ⟨position, position + Text.byteSize written⟩ := by
  obtain ⟨t, rfl, -, -, hmark⟩ := h
  obtain ⟨htag, hspan⟩ := Mark.isTag_of_ofTag hmark
  exact ⟨d.opening.toList ++ t.written, by simp, by simp [d.opening_ne_nil], htag, hspan⟩

end StartsWithTag

theorem isPrefixOf?_append (a b : List Char) : a.isPrefixOf? (a ++ b) = some b :=
  List.isPrefixOf?_eq_some_iff_append_eq.2 rfl

theorem isPrefixOf?_eq_none {a cs : List Char} : a.isPrefixOf? cs = none ↔ ¬ a <+: cs := by
  simp only [Option.eq_none_iff_forall_ne_some, ne_eq, List.isPrefixOf?_eq_some_iff_append_eq,
    List.IsPrefix, not_exists]

/-- The scanner takes a character where no tag starts. -/
theorem scan_char {d : Delimiters} {position : Nat} {c : Char} {cs : List Char}
    (h : ¬ d.opening.toList <+: c :: cs) :
    scan d position (c :: cs) = (scan d (position + c.utf8Size) cs).cons (.char c position) := by
  rw [scan]
  split
  · rfl
  · rename_i inside hfound
    rw [isPrefixOf?_eq_none.2 h] at hfound
    cases hfound

/-- The scanner takes a tag where one starts. -/
theorem scan_tag {d : Delimiters} {position : Nat} {cs rest : List Char} {mark : Mark}
    (h : StartsWithTag d position cs mark rest) :
    scan d position cs =
      (scan (mark.delimitersAfter d) mark.span.stop rest).cons (.tag mark) := by
  obtain ⟨t, hcs, htake, hrest, hmark⟩ := h
  have hstop : mark.span.stop =
      position + Text.byteSize d.opening.toList + Text.byteSize t.written := by
    rw [(Mark.isTag_of_ofTag hmark).2, Text.byteSize_append, Nat.add_assoc]
  have hfound : d.opening.toList.isPrefixOf? cs = some (t.written ++ rest) := by
    rw [hcs, isPrefixOf?_append]
  rw [Text.byteSize_append, ← Nat.add_assoc] at hmark
  cases cs with
  | nil => exact absurd (List.append_eq_nil_iff.1 hcs.symm).1 d.opening_ne_nil
  | cons c cs =>
    rw [scan]
    split
    · rename_i hnone
      rw [hfound] at hnone
      cases hnone
    · rename_i inside hsome
      obtain rfl := Option.some.inj (hfound.symm.trans hsome)
      simp only
      split
      · rename_i hnone
        rw [htake] at hnone
        cases hnone
      · rename_i t' hsome
        obtain rfl := Option.some.inj (htake.symm.trans hsome)
        simp only [hmark, hrest, hstop]

/-- The scanner finds the pieces of the judgement. -/
theorem Scans.scan_eq {d : Delimiters} {position : Nat} {cs : List Char} {pieces : List Piece}
    (h : Scans d position cs pieces) : scan d position cs = ⟨pieces, none⟩ := by
  induction h with
  | done => rw [scan]
  | char hc _ ih => rw [scan_char hc, ih, Scan.cons]
  | tag htag _ ih => rw [scan_tag htag, ih, Scan.cons]

/-- Without a fault the pieces that the scanner finds are those of the judgement. -/
theorem scans_of_scan (d : Delimiters) (position : Nat) (cs : List Char)
    (h : (scan d position cs).fault = none) :
    Scans d position cs (scan d position cs).pieces := by
  fun_induction scan d position cs with
  | case1 => exact .done
  | case2 d position c cs hfound ih =>
    exact .char (isPrefixOf?_eq_none.1 hfound) (ih h)
  | case3 => cases h
  | case4 => cases h
  | case5 d position c cs inside hfound start t hclosed stop mark hmark ih =>
    have hinside := Tag.written_append_rest hclosed
    have hbytes : position + Text.byteSize (d.opening.toList ++ t.written) = stop := by
      rw [Text.byteSize_append, ← Nat.add_assoc]
    have hstop : mark.span.stop = stop := by rw [(Mark.isTag_of_ofTag hmark).2]
    refine .tag ⟨t, ?_, ?_, rfl, ?_⟩ ?_
    · rw [hinside]
      exact append_of_isPrefixOf? hfound
    · rw [hinside, hclosed]
    · rw [hbytes, hmark]
    · rw [hstop]
      exact ih h

/-- **The judgement is what the scanner does** on a text without a fault. -/
theorem scan_eq_iff {d : Delimiters} {position : Nat} {cs : List Char} {pieces : List Piece} :
    scan d position cs = ⟨pieces, none⟩ ↔ Scans d position cs pieces := by
  refine ⟨fun h => ?_, Scans.scan_eq⟩
  have hscans := scans_of_scan d position cs (by rw [h])
  rwa [h] at hscans

namespace Scans

variable {d : Delimiters} {position : Nat} {cs : List Char} {pieces : List Piece}

/-- The text behind some pieces is read with the delimiters that are then in force. -/
theorem split {before after : List Piece} (h : Scans d position cs (before ++ after)) :
    ∃ front back, cs = front ++ back ∧
      Scans (inForce d (tagsOf before)) (position + Text.byteSize front) back after := by
  induction before generalizing d position cs with
  | nil => exact ⟨[], cs, rfl, h⟩
  | cons piece before ih =>
    rw [List.cons_append] at h
    cases h with
    | @char _ _ c cs _ _ rest =>
      obtain ⟨front, back, rfl, hback⟩ := ih rest
      refine ⟨c :: front, back, rfl, ?_⟩
      rwa [Text.byteSize_cons, ← Nat.add_assoc]
    | @tag _ _ _ rest mark _ htag after =>
      obtain ⟨written, rfl, -, -, hspan⟩ := htag.exists_written
      obtain ⟨front, back, rfl, hback⟩ := ih after
      refine ⟨written ++ front, back, by simp, ?_⟩
      rw [hspan] at hback
      rwa [Text.byteSize_append, ← Nat.add_assoc]

/-- A character outside tags stands in the text. -/
theorem exists_of_char {c : Char} {start : Nat} (h : Scans d position cs pieces)
    (hc : .char c start ∈ pieces) :
    ∃ front back, cs = front ++ c :: back ∧ start = position + Text.byteSize front := by
  obtain ⟨before, after, rfl⟩ := List.append_of_mem hc
  obtain ⟨front, back, rfl, hback⟩ := h.split
  cases hback with
  | char _ _ => exact ⟨front, _, rfl, rfl⟩

/-- A tag stands in the text, read with the delimiters in force after the tags before it. -/
theorem exists_of_tag {before after : List Piece} {mark : Mark}
    (h : Scans d position cs (before ++ .tag mark :: after)) :
    ∃ front back rest, cs = front ++ back ∧ mark.span.start = position + Text.byteSize front ∧
      StartsWithTag (inForce d (tagsOf before)) mark.span.start back mark rest := by
  obtain ⟨front, back, rfl, hback⟩ := h.split
  cases hback with
  | tag htag _ =>
    obtain ⟨written, -, -, -, hspan⟩ := htag.exists_written
    have hstart : mark.span.start = position + Text.byteSize front := by rw [hspan]
    exact ⟨front, back, _, rfl, hstart, hstart ▸ htag⟩

/-- Only tags count as tags. -/
theorem isTag_of_tag {mark : Mark} (h : Scans d position cs pieces) (hm : .tag mark ∈ pieces) :
    mark.isTag = true := by
  obtain ⟨before, after, rfl⟩ := List.append_of_mem hm
  obtain ⟨front, back, rest, -, -, htag⟩ := h.exists_of_tag
  obtain ⟨written, -, -, hmark, -⟩ := htag.exists_written
  exact hmark

end Scans

/-! ### Pieces side by side -/

/-- The pieces lie side by side from one offset to another, and none is empty. -/
inductive Tiles : Nat → List Piece → Nat → Prop where
  | nil {a : Nat} : Tiles a [] a
  | cons {piece : Piece} {pieces : List Piece} {b : Nat}
      (hpiece : piece.span.start < piece.span.stop) (rest : Tiles piece.span.stop pieces b) :
      Tiles piece.span.start (piece :: pieces) b

namespace Tiles

variable {a b p : Nat} {pieces : List Piece}

theorem le (h : Tiles a pieces b) : a ≤ b := by
  induction h with
  | nil => exact Nat.le_refl _
  | cons hpiece _ ih => omega

theorem bounds (h : Tiles a pieces b) {piece : Piece} (hp : piece ∈ pieces) :
    a ≤ piece.span.start ∧ piece.span.start < piece.span.stop ∧ piece.span.stop ≤ b := by
  induction h with
  | nil => cases hp
  | cons hpiece rest ih =>
    have hle := rest.le
    cases hp with
    | head => omega
    | tail _ hp =>
      have := ih hp
      omega

/-- The pieces are in order and do not overlap. -/
theorem pairwise (h : Tiles a pieces b) :
    pieces.Pairwise fun x y => x.span.stop ≤ y.span.start := by
  induction h with
  | nil => exact .nil
  | cons _ rest ih => exact .cons (fun y hy => (rest.bounds hy).1) ih

/-- No offset between the ends is left out. -/
theorem exists_covers (h : Tiles a pieces b) (ha : a ≤ p) (hb : p < b) :
    ∃ piece ∈ pieces, piece.span.Covers p := by
  induction h with
  | nil => omega
  | @cons piece pieces b _ rest ih =>
    by_cases hp : p < piece.span.stop
    · exact ⟨piece, List.mem_cons_self, ha, hp⟩
    · obtain ⟨y, hy, hcovers⟩ := ih (by omega) hb
      exact ⟨y, List.mem_cons_of_mem _ hy, hcovers⟩

end Tiles

/-- No offset lies in two pieces. -/
theorem Tiles.eq_of_covers {a b p : Nat} {pieces : List Piece} (h : Tiles a pieces b)
    {x y : Piece} (hx : x ∈ pieces) (hy : y ∈ pieces) (hxp : x.span.Covers p)
    (hyp : y.span.Covers p) : x = y := by
  induction h with
  | nil => cases hx
  | @cons piece pieces b _ rest ih =>
    obtain ⟨hxstart, hxstop⟩ := hxp
    obtain ⟨hystart, hystop⟩ := hyp
    cases hx with
    | head =>
      cases hy with
      | head => rfl
      | tail _ hy =>
        have hbounds := rest.bounds hy
        omega
    | tail _ hx =>
      cases hy with
      | head =>
        have hbounds := rest.bounds hx
        omega
      | tail _ hy => exact ih hx hy

/-- **The pieces of a text cover it**, side by side. -/
theorem Scans.tiles {d : Delimiters} {position : Nat} {cs : List Char} {pieces : List Piece}
    (h : Scans d position cs pieces) : Tiles position pieces (position + Text.byteSize cs) := by
  induction h with
  | done => exact .nil
  | @char d position c cs pieces _ _ ih =>
    have hpiece : (Piece.char c position).span.start < (Piece.char c position).span.stop :=
      Nat.lt_add_of_pos_right c.utf8Size_pos
    rw [Text.byteSize_cons, ← Nat.add_assoc]
    exact .cons hpiece ih
  | @tag d position cs rest mark pieces htag _ ih =>
    obtain ⟨written, rfl, hne, -, hspan⟩ := htag.exists_written
    have hpiece : (Piece.tag mark).span.start < (Piece.tag mark).span.stop := by
      rw [Piece.span, hspan]
      exact Nat.lt_add_of_pos_right (Text.byteSize_pos hne)
    have hstart : (Piece.tag mark).span.start = position := by rw [Piece.span, hspan]
    have hend : mark.span.stop + Text.byteSize rest =
        position + Text.byteSize (written ++ rest) := by
      rw [hspan, Text.byteSize_append, Nat.add_assoc]
    rw [← hend, ← hstart]
    exact .cons hpiece ih

end LiveTable.Template
