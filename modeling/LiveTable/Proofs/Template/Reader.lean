import LiveTable.Proofs.Template.Blame
import LiveTable.Proofs.Template.Cursor
import LiveTable.Proofs.Template.Drafting

/-!
# The loop over a template

A template can be read in one loop: up to the next opening delimiter, past the tag behind it, and so
on with the delimiters that are then in force, while a draft drops the lines that leave no trace.
Such a loop could go on for ever, take a slice out of range or remove the wrong token. It does none
of that: it ends with the tree of the text, or its fault.

* `Reader`: where the loop is; `Reader.round`: what one round comes to, if nothing is out of range;
* `Reader.Ends r result`: from there on the loop ends with the result;
* `Heads d source r`, `Midway d source w position`: where rounds start, and what they go through;
* `Reader.Reads d source r front rest pieces`: what holds where a round starts;
* `Reader.Reads.round`: a round keeps it and goes on, or comes to the end that parsing comes to;
* `LoopsSafely d source`: all that is to be known of the loop;
* `loopsSafely`: it holds of every text and all delimiters.
-/

namespace LiveTable.Template

open Text (byteSize)

/-- Where the loop over a template is. Of the open sections the innermost comes first. -/
structure Reader where
  cursor : Cursor
  delimiters : Delimiters
  opened : List OpenSection
  draft : Draft

/-- What a round of the loop comes to: another round, the end of the text, or a fault. -/
inductive Round where
  | again (r : Reader)
  | left (r : Reader)
  | stopped (fault : Fault) (r : Reader)

/-- The reader when the round is over. -/
def Round.reader : Round → Reader
  | again r => r
  | left r => r
  | stopped _ r => r

namespace Reader

def start (d : Delimiters) (source : List Char) : Reader := ⟨.start source, d, [], .empty⟩

/-- The reader behind a tag. -/
def putTag (r : Reader) (tag : Cursor.Reading) (span : Span) : Except Fault Reader := do
  let mark ← Mark.ofTag ⟨tag.sigil, tag.value, [], []⟩ span
  let opened ← matchSection r.opened (.tag mark)
  pure { r with
    delimiters := mark.delimitersAfter r.delimiters
    opened
    draft := r.draft.putTag mark }

/-- What a round comes to behind the text in front of a tag. Without an opening delimiter there is
no tag. -/
def passTag (r : Reader) : Option Round := do
  let opening := r.delimiters.opening.toList
  let start := r.cursor.position
  let (found, cursor) ← r.cursor.scan opening
  if found then
    let (tag, cursor) ← cursor.scanTag r.delimiters
    let r := { r with cursor }
    if tag.closed then
      match r.putTag tag ⟨start, cursor.position⟩ with
      | .ok r => pure (.again r)
      | .error fault => pure (.stopped fault r)
    else
      pure (.stopped (.unclosedTag cursor.position r.delimiters.closing
        ⟨start, start + byteSize opening⟩) r)
  else pure (.left { r with cursor })

/-- One round, unless a slice or a removal is out of range. -/
def round (r : Reader) : Option Round := do
  let (text, cursor) ← r.cursor.scanUntil r.delimiters.opening.toList
  let draft ← r.draft.putAll r.cursor.position text
  passTag { r with cursor, draft }

/-- The result at the end of the text. A section that is still open is a fault. -/
def finish (r : Reader) : Except Fault (List Token) :=
  match r.opened with
  | innermost :: _ => .error (.unclosedSection innermost.name innermost.span)
  | [] => .ok (nest (squash r.draft.tokens))

/-- From there on the loop ends with the result, and nothing is out of range. -/
inductive Ends : Reader → Except Fault (List Token) → Prop where
  | atEnd {r : Reader} (h : r.cursor.atEnd = true) : Ends r r.finish
  | left {r r' : Reader} (h : r.cursor.atEnd = false) (hround : r.round = some (.left r')) :
      Ends r r'.finish
  | stopped {r r' : Reader} {fault : Fault} (h : r.cursor.atEnd = false)
      (hround : r.round = some (.stopped fault r')) : Ends r (.error fault)
  | again {r r' : Reader} {result : Except Fault (List Token)} (h : r.cursor.atEnd = false)
      (hround : r.round = some (.again r')) (hrest : Ends r' result) : Ends r result

end Reader

/-- The loop comes there to start a round. -/
inductive Heads (d : Delimiters) (source : List Char) : Reader → Prop where
  | start : Heads d source (.start d source)
  | again {r r' : Reader} (h : Heads d source r) (hend : r.cursor.atEnd = false)
      (hround : r.round = some (.again r')) : Heads d source r'

/-- A round has come there with the characters up to the offset, which are all or some of those in
front of the next tag. -/
inductive Midway (d : Delimiters) (source : List Char) : Draft → Nat → Prop where
  | taken {r : Reader} (h : Heads d source r) {front back : List Char} {cursor : Cursor}
      (htext : r.cursor.scanUntil r.delimiters.opening.toList = some (front ++ back, cursor))
      {w : Draft} (hput : r.draft.putAll r.cursor.position front = some w) :
      Midway d source w (r.cursor.position + byteSize front)

/-! ### Texts in front of tags -/

section Before

variable {d : Delimiters}

/-- Up to the next opening delimiter a text is read character by character. -/
theorem scan_before {cs before after : List Char}
    (h : before? d.opening.toList cs = some (before, after)) (position : Nat) :
    scan d position cs =
      (scan d (position + byteSize before) (d.opening.toList ++ after)).prepend
        (spread position before) := by
  induction cs generalizing before position with
  | nil =>
    rw [before?, if_neg d.opening_ne_nil] at h
    cases h
  | cons c cs ih =>
    rw [before?] at h
    split at h
    · next rest hfound =>
      cases h
      rw [append_of_isPrefixOf? hfound]
      rfl
    · next hmiss =>
      obtain ⟨⟨skipped, rest⟩, hrest, hcons⟩ := Option.map_eq_some_iff.1 h
      cases hcons
      rw [scan_char (isPrefixOf?_eq_none.1 hmiss), ih hrest, byteSize, ← Nat.add_assoc]
      rfl

/-- Without an opening delimiter all of a text is. -/
theorem scan_of_before?_eq_none {cs : List Char} (h : before? d.opening.toList cs = none)
    (position : Nat) :
    scan d position cs = (scan d (position + byteSize cs) []).prepend (spread position cs) := by
  induction cs generalizing position with
  | nil => rfl
  | cons c cs ih =>
    rw [before?] at h
    split at h
    · cases h
    · next hmiss =>
      rw [scan_char (isPrefixOf?_eq_none.1 hmiss), ih (Option.map_eq_none_iff.1 h), byteSize,
        ← Nat.add_assoc]
      rfl

theorem Tiles.append {a b c : Nat} {first rest : List Piece} (hfirst : Tiles a first b)
    (hrest : Tiles b rest c) : Tiles a (first ++ rest) c := by
  induction hfirst with
  | nil => exact hrest
  | cons hpiece _ ih => exact .cons hpiece (ih hrest)

theorem tiles_spread (start : Nat) (cs : List Char) :
    Tiles start (spread start cs) (start + byteSize cs) := by
  induction cs generalizing start with
  | nil => exact .nil
  | cons c cs ih =>
    have hc := c.utf8Size_pos
    rw [spread, byteSize, ← Nat.add_assoc]
    exact @Tiles.cons (.char c start) _ _ (Nat.lt_add_of_pos_right hc) (ih _)

theorem tiles_tag {mark : Mark} {span : Span} (h : mark.span = span)
    (hspan : span.start < span.stop) : Tiles span.start [.tag mark] span.stop := by
  obtain rfl := h
  exact @Tiles.cons (.tag mark) [] _ hspan .nil

theorem foldlM_matchSection_spread (opened : List OpenSection) (start : Nat) (cs : List Char) :
    (spread start cs).foldlM matchSection opened = .ok opened := by
  induction cs generalizing start with
  | nil => rfl
  | cons c cs ih => exact ih _

end Before

/-! ### Where rounds start -/

namespace Reader

/-- What holds where a round starts: the text in front of the cursor has been read as the pieces,
and the sections that they leave open, the delimiters in force and the draft are theirs. -/
structure Reads (d : Delimiters) (source : List Char) (r : Reader) (front rest : List Char)
    (pieces : List Piece) : Prop where
  split : source = front ++ rest
  cursor : r.cursor.At front rest
  scan : scan d 0 source = (scan r.delimiters (byteSize front) rest).prepend pieces
  tiles : Tiles 0 pieces (byteSize front)
  delimiters : r.delimiters = inForce d (tagsOf pieces)
  opened : matchSections pieces = .ok r.opened
  draft : r.draft.Holds pieces

/-- What a tag makes of the reader, fault by fault. -/
theorem putTag_eq (r : Reader) (t : Tag) (closed : Bool) (span : Span) :
    r.putTag ⟨t.sigil, t.value, closed⟩ span =
      match Mark.ofTag t span with
      | .error fault => .error fault
      | .ok mark =>
        match matchSection r.opened (.tag mark) with
        | .error fault => .error fault
        | .ok opened => .ok { r with
            delimiters := mark.delimitersAfter r.delimiters
            opened
            draft := r.draft.putTag mark } := by
  have hmark : Mark.ofTag ⟨t.sigil, t.value, [], []⟩ span = Mark.ofTag t span := rfl
  rw [Reader.putTag, hmark]
  cases Mark.ofTag t span with
  | error fault => rfl
  | ok mark =>
    dsimp only [bind, Except.bind]
    cases matchSection r.opened (.tag mark) <;> rfl

theorem reads_start (d : Delimiters) (source : List Char) :
    (start d source).Reads d source [] source [] :=
  ⟨rfl, Cursor.at_start source, rfl, .nil, rfl, rfl, Draft.holds_empty⟩

/-- What is to be known of a round that starts behind `front`. -/
def RoundSound (d : Delimiters) (source front : List Char) (r : Reader) : Round → Prop
  | .again r' => ∃ front' rest' pieces', r'.Reads d source front' rest' pieces' ∧
      byteSize front + byteSize r.delimiters.opening.toList ≤ byteSize front'
  | .left r' => ∃ front' pieces', r'.Reads d source front' [] pieces'
  | .stopped fault r' => parse d source = .error fault ∧
      ∃ front' rest', r'.cursor.At front' rest' ∧ source = front' ++ rest'

/-- When a round is over the cursor is in the text. -/
theorem RoundSound.steady {d : Delimiters} {source front : List Char} {r : Reader} {round : Round}
    (h : RoundSound d source front r round) : round.reader.cursor.Steady source := by
  cases round with
  | again r' =>
    obtain ⟨front', rest', pieces', hreads, -⟩ := h
    exact hreads.cursor.steady hreads.split
  | left r' =>
    obtain ⟨front', pieces', hreads⟩ := h
    exact hreads.cursor.steady hreads.split
  | stopped fault r' =>
    obtain ⟨-, front', rest', hcursor, hsplit⟩ := h
    exact hcursor.steady hsplit

namespace Reads

variable {d : Delimiters} {source front rest : List Char} {r : Reader} {pieces : List Piece}

/-- At the end of the text the result is that of parsing. -/
theorem finish_eq (h : r.Reads d source front [] pieces) : r.finish = parse d source := by
  rw [parse_eq_tree, h.scan, Template.scan, Scan.prepend, Scan.tree, List.append_nil, h.opened,
    finish, h.draft.tokens_eq]
  dsimp only [bind, Except.bind]
  cases r.opened <;> rfl

/-- What a round takes up to the next tag is read character by character. -/
theorem pieces_scan {text : List Char} {cursor : Cursor} (h : r.Reads d source front rest pieces)
    (htext : r.cursor.scanUntil r.delimiters.opening.toList = some (text, cursor)) :
    ∃ more, (Template.scan d 0 source).pieces =
      pieces ++ (spread r.cursor.position text ++ more) := by
  rw [h.scan, h.cursor.position]
  cases hbefore : before? r.delimiters.opening.toList rest with
  | none =>
    cases (h.cursor.scanUntil_of_none hbefore).symm.trans htext
    exact ⟨_, by rw [scan_of_before?_eq_none hbefore]; rfl⟩
  | some parts =>
    obtain ⟨before, after⟩ := parts
    cases (h.cursor.scanUntil_of_some hbefore).1.symm.trans htext
    exact ⟨_, by rw [scan_before hbefore]; rfl⟩

/-- A round takes text without a tag character by character. -/
theorem take {text rest' : List Char} (h : r.Reads d source front (text ++ rest') pieces)
    (hscan : Template.scan r.delimiters (byteSize front) (text ++ rest') =
      (Template.scan r.delimiters (byteSize front + byteSize text) rest').prepend
        (spread (byteSize front) text)) :
    ∃ w, r.draft.putAll r.cursor.position text = some w ∧
      ({ r with cursor := r.cursor.advance text, draft := w } : Reader).Reads d source
        (front ++ text) rest' (pieces ++ spread r.cursor.position text) := by
  obtain ⟨w, hput, hw⟩ := h.draft.putAll r.cursor.position text
  refine ⟨w, hput, ?_, h.cursor.advance, ?_, ?_, ?_, ?_, hw⟩
  · rw [h.split, List.append_assoc]
  · rw [h.scan, hscan, h.cursor.position, Text.byteSize_append]
    simp [Scan.prepend]
  · rw [h.cursor.position, Text.byteSize_append]
    exact h.tiles.append (tiles_spread _ _)
  · rw [tagsOf_append, tagsOf_spread, List.append_nil]
    exact h.delimiters
  · rw [matchSections_append h.opened]
    exact foldlM_matchSection_spread _ _ _

/-- Behind a tag the reader has read it, unless it is at fault. -/
theorem putTag {after : List Char} {t : Tag} {cursor : Cursor}
    (h : r.Reads d source front (r.delimiters.opening.toList ++ after) pieces)
    (htake : Tag.take? r.delimiters after = some t)
    (hcursor : cursor.At (front ++ r.delimiters.opening.toList ++ t.written) t.rest) :
    match ({ r with cursor } : Reader).putTag ⟨t.sigil, t.value, true⟩
      ⟨r.cursor.position, cursor.position⟩ with
    | .ok r' => ∃ pieces', r'.Reads d source
        (front ++ r.delimiters.opening.toList ++ t.written) t.rest pieces'
    | .error fault => parse d source = .error fault := by
  have hscan := h.scan
  rw [scan_opening (isPrefixOf?_append _ after), htake] at hscan
  dsimp only at hscan
  have hstop : byteSize (front ++ r.delimiters.opening.toList ++ t.written) =
      byteSize front + byteSize r.delimiters.opening.toList + byteSize t.written := by
    rw [Text.byteSize_append, Text.byteSize_append]
  rw [h.cursor.position, hcursor.position, hstop, putTag_eq]
  cases hmark : Mark.ofTag t ⟨byteSize front,
      byteSize front + byteSize r.delimiters.opening.toList + byteSize t.written⟩ with
  | error fault =>
    rw [hmark] at hscan
    dsimp only
    rw [parse_eq_tree, hscan]
    exact Scan.tree_prepend_of_fault h.opened fault
  | ok mark =>
    rw [hmark] at hscan
    dsimp only at hscan ⊢
    cases hopened : matchSection r.opened (.tag mark) with
    | error fault =>
      dsimp only
      rw [parse_eq_tree, hscan]
      exact Scan.tree_prepend_of_unmatched h.opened hopened _
    | ok opened =>
      have hmarkSpan := (Mark.isTag_of_ofTag hmark).2
      have hopening := Text.byteSize_pos r.delimiters.opening_ne_nil
      refine ⟨pieces ++ [.tag mark], ?_, hcursor, ?_, ?_, ?_, ?_, h.draft.putTag mark⟩
      · rw [h.split, ← Tag.written_append_rest htake]
        simp
      · rw [hscan, hstop]
        simp [Scan.prepend, Scan.cons]
      · rw [hstop]
        exact h.tiles.append (tiles_tag hmarkSpan (by dsimp only; omega))
      · rw [tagsOf_append, tagsOf_tag, tagsOf_nil, inForce_append, ← h.delimiters]
        rfl
      · rw [matchSections_append h.opened]
        exact congrArg (· >>= pure) hopened

theorem passTag {after : List Char}
    (h : r.Reads d source front (r.delimiters.opening.toList ++ after) pieces) :
    ∃ round, r.passTag = some round ∧ RoundSound d source front r round := by
  have htag := h.cursor.advance.scanTag r.delimiters
  have hfound := h.cursor.scan_of_append
  simp only [Reader.passTag, hfound, Option.bind_eq_bind, Option.bind_some, if_true]
  cases htake : Tag.take? r.delimiters after with
  | none =>
    rw [htake] at htag
    obtain ⟨sigil, value, cursor, htag, hcursor⟩ := htag
    simp only [htag, Option.bind_some]
    refine ⟨_, rfl, ?_, _, _, hcursor, ?_⟩
    · have hscan := h.scan
      rw [scan_opening (isPrefixOf?_append _ after), htake] at hscan
      rw [parse_eq_tree, hscan, hcursor.position, h.cursor.position]
      simp only [Text.byteSize_append]
      exact Scan.tree_prepend_of_fault h.opened _
    · rw [h.split]
      simp
  | some t =>
    rw [htake] at htag
    obtain ⟨cursor, htag, hcursor⟩ := htag
    simp only [htag, Option.bind_some, if_true]
    have hput := h.putTag htake hcursor
    split at hput
    · next r' _ =>
      obtain ⟨pieces', hreads⟩ := hput
      refine ⟨_, rfl, _, _, _, hreads, ?_⟩
      simp only [Text.byteSize_append]
      omega
    · next fault _ =>
      refine ⟨_, rfl, hput, _, _, hcursor, ?_⟩
      rw [h.split, ← Tag.written_append_rest htake]
      simp

/-- **A round is in range.** It goes on behind a tag, or comes to the end of the text or to the
fault that parsing comes to. -/
theorem round (h : r.Reads d source front rest pieces) :
    ∃ round, r.round = some round ∧ RoundSound d source front r round := by
  cases hbefore : before? r.delimiters.opening.toList rest with
  | none =>
    have huntil := h.cursor.scanUntil_of_none hbefore
    have hscan := scan_of_before?_eq_none hbefore (byteSize front)
    rw [← List.append_nil rest] at h
    obtain ⟨w, hput, hreads⟩ := h.take (by rwa [List.append_nil])
    have hmiss : ¬ r.delimiters.opening.toList <+: [] :=
      fun hprefix => r.delimiters.opening_ne_nil (List.prefix_nil.1 hprefix)
    have hnone := hreads.cursor.scan_of_not_prefix hmiss
    simp only [Reader.round, Reader.passTag, huntil, hput, hnone, Option.bind_eq_bind,
      Option.bind_some]
    exact ⟨_, rfl, _, _, hreads⟩
  | some parts =>
    obtain ⟨before, after⟩ := parts
    have huntil := (h.cursor.scanUntil_of_some hbefore).1
    have hscan := scan_before hbefore (byteSize front)
    obtain rfl := append_of_before? hbefore
    rw [List.append_assoc] at h hscan
    obtain ⟨w, hput, hreads⟩ := h.take hscan
    obtain ⟨round, hround, hsound⟩ := hreads.passTag
    refine ⟨round, ?_, ?_⟩
    · simp only [Reader.round, huntil, hput, Option.bind_eq_bind, Option.bind_some]
      exact hround
    · cases round with
      | again r' =>
        obtain ⟨front', rest', pieces', hreads', hle⟩ := hsound
        rw [Text.byteSize_append] at hle
        exact ⟨front', rest', pieces', hreads', by dsimp only at hle; omega⟩
      | left r' => exact hsound
      | stopped fault r' => exact hsound

/-- **The loop ends as parsing does.** -/
theorem ends (h : r.Reads d source front rest pieces) : r.Ends (parse d source) := by
  -- each round leaves less of the text
  induction hsize : byteSize rest using Nat.strong_induction_on
    generalizing r front rest pieces with | _ size ih =>
  cases hend : r.cursor.atEnd with
  | true =>
    obtain rfl := h.cursor.atEnd_iff.1 hend
    rw [← h.finish_eq]
    exact .atEnd hend
  | false =>
    obtain ⟨round, hround, hsound⟩ := h.round
    cases round with
    | again r' =>
      obtain ⟨front', rest', pieces', hreads, hle⟩ := hsound
      have hopening := Text.byteSize_pos r.delimiters.opening_ne_nil
      have hsplit := congrArg byteSize (h.split.symm.trans hreads.split)
      rw [Text.byteSize_append, Text.byteSize_append] at hsplit
      exact .again hend hround (ih (byteSize rest') (by omega) hreads rfl)
    | left r' =>
      obtain ⟨front', pieces', hreads⟩ := hsound
      rw [← hreads.finish_eq]
      exact .left hend hround
    | stopped fault r' =>
      rw [hsound.1]
      exact .stopped hend hround

end Reads

/-- There is one end. -/
theorem Ends.unique {r : Reader} {a b : Except Fault (List Token)} (ha : r.Ends a)
    (hb : r.Ends b) : a = b := by
  induction ha with
  | atEnd h =>
    cases hb with
    | atEnd => rfl
    | left h' | stopped h' | again h' => exact absurd (h.symm.trans h') (by decide)
  | left h hround =>
    cases hb with
    | atEnd h' => exact absurd (h.symm.trans h') (by decide)
    | left _ hround' =>
      cases hround.symm.trans hround'
      rfl
    | stopped _ hround' | again _ hround' => cases hround.symm.trans hround'
  | stopped h hround =>
    cases hb with
    | atEnd h' => exact absurd (h.symm.trans h') (by decide)
    | stopped _ hround' =>
      cases hround.symm.trans hround'
      rfl
    | left _ hround' | again _ hround' => cases hround.symm.trans hround'
  | again h hround _ ih =>
    cases hb with
    | atEnd h' => exact absurd (h.symm.trans h') (by decide)
    | left _ hround' | stopped _ hround' => cases hround.symm.trans hround'
    | again _ hround' hrest =>
      cases hround.symm.trans hround'
      exact ih hrest

end Reader

/-! ### The whole loop -/

section Loop

variable {d : Delimiters} {source : List Char} {r : Reader}

open Reader

theorem Heads.reads (h : Heads d source r) :
    ∃ front rest pieces, r.Reads d source front rest pieces := by
  induction h with
  | start => exact ⟨[], source, [], reads_start d source⟩
  | again _ _ hround ih =>
    obtain ⟨front, rest, pieces, hreads⟩ := ih
    obtain ⟨round, hround', hsound⟩ := hreads.round
    cases hround.symm.trans hround'
    obtain ⟨front', rest', pieces', hreads', -⟩ := hsound
    exact ⟨front', rest', pieces', hreads'⟩

/-- Midway the draft is that of the pieces up to the offset. -/
theorem Midway.exists_holds {w : Draft} {position : Nat} (h : Midway d source w position) :
    ∃ read later, (scan d 0 source).pieces = read ++ later ∧ Tiles 0 read position ∧
      w.Holds read := by
  cases h with
  | @taken r h front back cursor htext w hput =>
    obtain ⟨start, rest, pieces, hreads⟩ := h.reads
    obtain ⟨more, hpieces⟩ := hreads.pieces_scan htext
    obtain ⟨w', hput', hw⟩ := hreads.draft.putAll r.cursor.position front
    cases hput.symm.trans hput'
    refine ⟨pieces ++ spread r.cursor.position front,
      spread (r.cursor.position + byteSize front) back ++ more, ?_, ?_, hw⟩
    · rw [hpieces, spread_append]
      simp
    · have htiles := hreads.tiles
      rw [← hreads.cursor.position] at htiles
      exact htiles.append (tiles_spread _ _)

/-- A word is not empty and holds no blank. -/
theorem word_visible {value word : List Char} (h : word ∈ Text.words value) :
    word ≠ [] ∧ ∀ c ∈ word, Text.isBlank c = false := by
  obtain ⟨hpart, hne⟩ := List.mem_filter.1 h
  refine ⟨?_, Text.forall_mem_of_mem_splitWhere hpart⟩
  rintro rfl
  cases hne

/-- Any two words are delimiters, as they stand. -/
theorem exists_read?_of_words {value opening closing : List Char}
    (h : Text.words value = [opening, closing]) :
    ∃ d', Delimiters.read? value = some d' ∧ d'.opening.toList = opening ∧
      d'.closing.toList = closing := by
  have hdelimiter : ∀ word ∈ Text.words value, isDelimiter (String.ofList word) = true := by
    intro word hword
    obtain ⟨hne, hblank⟩ := word_visible hword
    rw [isDelimiter, String.toList_ofList, Bool.and_eq_true, List.all_eq_true]
    exact ⟨by simpa using hne, fun c hc => by rw [hblank c hc]; rfl⟩
  rw [h] at hdelimiter
  have hopening := hdelimiter opening (by simp)
  have hclosing := hdelimiter closing (by simp)
  refine ⟨⟨String.ofList opening, String.ofList closing, hopening, hclosing⟩, ?_, ?_, ?_⟩
  · rw [Delimiters.read?, h]
    exact dif_pos ⟨hopening, hclosing⟩
  · exact String.toList_ofList
  · exact String.toList_ofList

end Loop

/-- The loop over a text ends, and nothing in it is out of range. -/
structure LoopsSafely (d : Delimiters) (source : List Char) : Prop where
  /-- The loop ends in one way, as parsing does. -/
  ends : ∀ result, (Reader.start d source).Ends result ↔ result = parse d source
  /-- Every round is in range. It is the last one, or goes on by the opening delimiter in force at
  least. -/
  round : ∀ r, Heads d source r → ∃ round, r.round = some round ∧ ∀ r', round = .again r' →
    r.cursor.position + byteSize r.delimiters.opening.toList ≤ r'.cursor.position
  cursor : ∀ r, Heads d source r → r.cursor.Steady source ∧
    ∀ round, r.round = some round → round.reader.cursor.Steady source
  /-- The delimiters in force are those of the last tag that changed them. -/
  delimiters : ∀ r, Heads d source r → ∃ read later, (scan d 0 source).pieces = read ++ later ∧
    Tiles 0 read r.cursor.position ∧ r.delimiters = inForce d (tagsOf read)
  /-- Words are put in force as they stand, for none is empty or holds a blank. -/
  words : ∀ value opening closing, Text.words value = [opening, closing] →
    (opening ≠ [] ∧ ∀ c ∈ opening, Text.isBlank c = false) ∧
      (closing ≠ [] ∧ ∀ c ∈ closing, Text.isBlank c = false) ∧
      ∃ d', Delimiters.read? value = some d' ∧ d'.opening.toList = opening ∧
        d'.closing.toList = closing
  /-- At any time the indices point at blanks of the current line, and so they do, whichever
  character comes next, while the line that it ends is stripped. -/
  pending : ∀ w position, Midway d source w position →
    ∃ read later, (scan d 0 source).pieces = read ++ later ∧ Tiles 0 read position ∧
      Pending (currentLine read) w.spaces w.tokens ∧
      ∀ c, Removes (currentLine read ++ [.char c position]) (w.push c position).tokens
        (w.push c position).spaces (w.push c position).tokens

/-- **The loop over any text ends, and nothing in it is out of range**, whichever delimiters are in
force at its start. -/
theorem loopsSafely (d : Delimiters) (source : List Char) : LoopsSafely d source where
  ends result := by
    have hends := (Reader.reads_start d source).ends
    exact ⟨fun h => h.unique hends, fun h => h ▸ hends⟩
  round r h := by
    obtain ⟨front, rest, pieces, hreads⟩ := h.reads
    obtain ⟨round, hround, hsound⟩ := hreads.round
    refine ⟨round, hround, ?_⟩
    rintro r' rfl
    obtain ⟨front', rest', pieces', hreads', hle⟩ := hsound
    rw [hreads.cursor.position, hreads'.cursor.position]
    exact hle
  cursor r h := by
    obtain ⟨front, rest, pieces, hreads⟩ := h.reads
    refine ⟨hreads.cursor.steady hreads.split, fun round hround => ?_⟩
    obtain ⟨round', hround', hsound⟩ := hreads.round
    cases hround.symm.trans hround'
    exact hsound.steady
  delimiters r h := by
    obtain ⟨front, rest, pieces, hreads⟩ := h.reads
    rw [hreads.cursor.position]
    exact ⟨pieces, _, by rw [hreads.scan]; rfl, hreads.tiles, hreads.delimiters⟩
  words value opening closing h := by
    have hword : ∀ word ∈ [opening, closing], word ≠ [] ∧ ∀ c ∈ word, Text.isBlank c = false :=
      fun word hword => word_visible (h ▸ hword)
    exact ⟨hword opening (by simp), hword closing (by simp), exists_read?_of_words h⟩
  pending w position h := by
    obtain ⟨read, later, hpieces, htiles, hw⟩ := h.exists_holds
    exact ⟨read, later, hpieces, htiles, Draft.Keeps.pending hw, fun c => hw.removes_push c _⟩

/-- A round passes the tag with the delimiters in force at its start, and leaves new ones. -/
example : (Reader.start .standard "\x7b\x7b=< >=\x7d\x7d \n<a>".toList).round.map
    (fun round => (round.reader.cursor.position, round.reader.delimiters.opening)) =
      some (9, "<") := by decide +kernel

end LiveTable.Template
