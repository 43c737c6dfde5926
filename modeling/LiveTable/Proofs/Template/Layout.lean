import LiveTable.Proofs.Template.Settling

/-!
# The layout of a template

Every character of a template is accounted for: it lies in a tag, in a text, or on a line that
leaves no trace. The statements of this module are about the text of a template, the offsets in it
and the marks that its tree unfolds into; they do not mention how the tree was found.

* `charAt? source p`: the character at an offset;
* `Outside marks p`, `BreakAt source marks b`, `OnLine source marks p q`: outside tags, line breaks
  there, and lines;
* `LeavesNoTrace source marks p`: the line of the offset leaves no trace;
* `IsClosingTag d name cs`: the text is a closing tag;
* `Token.Within`: a token at any depth of a tree;
* `Token.ReadWith`: the same, with the delimiters in force where it starts;
* `Layout d source tokens marks`: where the tokens stand in the template;
* `parse_layout`: every tree that is parsed has a layout, and a text without tags is one token.
-/

namespace LiveTable.Template

/-! ### Offsets in a template -/

/-- The character at an offset, if one starts there. -/
def charAt? (source : List Char) (p : Nat) : Option Char :=
  (Text.dropBytes? p source).bind List.head?

/-- The offset lies in no tag. -/
def Outside (marks : List Mark) (p : Nat) : Prop :=
  ∀ mark ∈ marks, mark.isTag = true → ¬ mark.span.Covers p

/-- A line ends at the offset: there is a line break outside tags. -/
def BreakAt (source : List Char) (marks : List Mark) (b : Nat) : Prop :=
  charAt? source b = some '\n' ∧ Outside marks b

/-- The offsets lie on one line: no line ends between them. A line break belongs to the line that
it ends. -/
def OnLine (source : List Char) (marks : List Mark) (p q : Nat) : Prop :=
  ∀ b, BreakAt source marks b → (b < p ↔ b < q)

/-- The line of the offset leaves no trace: it ends in a line break, holds a tag, and holds nothing
but blanks and tags that write no value. -/
structure LeavesNoTrace (source : List Char) (marks : List Mark) (p : Nat) : Prop where
  ends : ∃ b, BreakAt source marks b ∧ p ≤ b
  tagged : ∃ mark ∈ marks, mark.isTag = true ∧ OnLine source marks p mark.span.start
  valueless : ∀ mark ∈ marks, OnLine source marks p mark.span.start → mark.isValue = false
  blank : ∀ q c, charAt? source q = some c → Outside marks q → OnLine source marks p q →
    Text.isBlank c = true

/-! ### Tags in a template -/

/-- The text is the closing tag of a section. -/
def IsClosingTag (d : Delimiters) (name : String) (cs : List Char) : Prop :=
  ∃ before after : List Char, (∀ c ∈ before, Text.isBlank c = true) ∧
    (∀ c ∈ after, Text.isBlank c = true) ∧
    cs = d.opening.toList ++ '/' :: (before ++ name.toList ++ after ++ d.closing.toList)

/-- The tag stands in the template where its place says, read with the delimiters `d`. -/
def Stands (d : Delimiters) (source : List Char) (mark : Mark) : Prop :=
  ∃ cs rest, Text.dropBytes? mark.span.start source = some cs ∧
    StartsWithTag d mark.span.start cs mark rest

namespace Token

/-- The token stands among the tokens of a tree, at any depth. -/
inductive Within (token : Token) : List Token → Prop where
  | head {tokens : List Token} : Within token (token :: tokens)
  | inside {inverted : Bool} {name : String} {span : Span} {children tokens : List Token}
      {close : Nat} (h : Within token children) :
      Within token (.block inverted name span children close :: tokens)
  | tail {first : Token} {tokens : List Token} (h : Within token tokens) :
      Within token (first :: tokens)

/-- The token stands among the tokens of a tree, at any depth, and is read with the delimiters `t`,
if the tree starts with the given ones in force. -/
inductive ReadWith (token : Token) (t : Delimiters) : Delimiters → List Token → Prop where
  | head {tokens : List Token} : ReadWith token t t (token :: tokens)
  | inside {d : Delimiters} {inverted : Bool} {name : String} {span : Span}
      {children tokens : List Token} {close : Nat} (h : ReadWith token t d children) :
      ReadWith token t d (.block inverted name span children close :: tokens)
  | tail {d : Delimiters} {first : Token} {tokens : List Token}
      (h : ReadWith token t (first.delimitersAfter d) tokens) : ReadWith token t d (first :: tokens)

/-- Every token of a tree is read with some delimiters. -/
theorem Within.exists_readWith {token : Token} {tokens : List Token} (h : token.Within tokens)
    (d : Delimiters) : ∃ t, token.ReadWith t d tokens := by
  induction h generalizing d with
  | head => exact ⟨d, .head⟩
  | inside _ ih => exact (ih d).imp fun _ h => .inside h
  | tail _ ih => exact (ih _).imp fun _ h => .tail h

end Token

/-- The closing tag that stands at `close` carries the name. -/
def ClosedAt (d : Delimiters) (source : List Char) (marks : List Mark) (name : String)
    (close : Nat) : Prop :=
  ∃ front stop back written, marks = front ++ .closing name ⟨close, stop⟩ :: back ∧
    Text.slice? ⟨close, stop⟩ source = some written ∧ IsClosingTag (inForce d front) name written

/-- Where the tokens of a tree stand in the template, `marks` being what the tree unfolds into. -/
structure Layout (d : Delimiters) (source : List Char) (tokens : List Token)
    (marks : List Mark) : Prop where
  unfolds : Unfolds tokens marks
  /-- Places are in order and do not overlap. -/
  ordered : marks.Pairwise fun x y => x.span.stop ≤ y.span.start
  /-- Places lie in the template, between characters, and are not empty. -/
  placed : ∀ mark ∈ marks, ∃ cs ≠ [], Text.slice? mark.span source = some cs
  /-- A text is what stands in its place. -/
  texts : ∀ s span, .leaf (.text s) span ∈ marks → Text.slice? span source = some s.toList
  /-- No text follows a text. -/
  apart : marks.IsChain fun x y => x.isTag = true ∨ y.isTag = true
  /-- A tag is what stands in its place, read with the delimiters then in force. -/
  tags : ∀ front mark back, marks = front ++ mark :: back → mark.isTag = true →
    Stands (inForce d front) source mark
  /-- The text between the tags of a section can be had, and its closing tag carries its name. -/
  sections : ∀ inverted name span children close,
    (Token.block inverted name span children close).Within tokens →
      (∃ cs, (Token.block inverted name span children close).sectionText? source = some cs) ∧
        ClosedAt d source marks name close
  /-- What lies neither in a tag nor in a text lies on a line that leaves no trace. -/
  dropped : ∀ p c, charAt? source p = some c →
    ((∀ mark ∈ marks, ¬ mark.span.Covers p) ↔
      Outside marks p ∧ LeavesNoTrace source marks p)

/-! ### Places of marks -/

/-- The text `cs` stands in the template at the place. -/
def StandsAt (source : List Char) (span : Span) (cs : List Char) : Prop :=
  ∃ front back, source = front ++ (cs ++ back) ∧
    span = ⟨Text.byteSize front, Text.byteSize front + Text.byteSize cs⟩

theorem StandsAt.slice?_eq {source cs : List Char} {span : Span} (h : StandsAt source span cs) :
    Text.slice? span source = some cs := by
  obtain ⟨front, back, rfl, rfl⟩ := h
  exact Text.slice?_append front cs back

/-- A character stands where it is read. -/
theorem charAt?_eq_some_iff {source : List Char} {p : Nat} {c : Char} :
    charAt? source p = some c ↔ ∃ front back, source = front ++ c :: back ∧
      Text.byteSize front = p := by
  simp only [charAt?, Option.bind_eq_some_iff, Text.dropBytes?_eq_some_iff,
    List.head?_eq_some_iff]
  constructor
  · rintro ⟨_, ⟨front, hsource, hp⟩, back, rfl⟩
    exact ⟨front, back, hsource, hp⟩
  · rintro ⟨front, back, hsource, hp⟩
    exact ⟨_, ⟨front, hsource, hp⟩, back, rfl⟩

section Pieces

variable {d : Delimiters} {source : List Char} {pieces : List Piece}
  (h : Scans d 0 source pieces)
include h

/-- A character outside tags is read where it stands. -/
theorem charAt?_of_mem {c : Char} {p : Nat} (hc : .char c p ∈ pieces) :
    charAt? source p = some c := by
  obtain ⟨front, back, hsource, hp⟩ := h.exists_of_char hc
  exact charAt?_eq_some_iff.2 ⟨front, back, hsource, by rw [hp, Nat.zero_add]⟩

/-- A character that no tag covers is a piece of its own. -/
theorem mem_or_exists_tag {c : Char} {p : Nat} (hc : charAt? source p = some c) :
    .char c p ∈ pieces ∨ ∃ mark, .tag mark ∈ pieces ∧ mark.span.Covers p := by
  obtain ⟨front, back, hsource, hp⟩ := charAt?_eq_some_iff.1 hc
  have hlt : p < 0 + Text.byteSize source := by
    have hsize := c.utf8Size_pos
    rw [hsource, Text.byteSize_append, Text.byteSize_cons]
    omega
  obtain ⟨x, hx, hstart, hstop⟩ := h.tiles.exists_covers (Nat.zero_le p) hlt
  cases x with
  | tag mark => exact .inr ⟨mark, hx, hstart, hstop⟩
  | char c' q =>
    obtain ⟨front', back', hsource', hq⟩ := h.exists_of_char hx
    rw [Nat.zero_add] at hq
    simp only [Piece.span] at hstart hstop
    obtain ⟨between, rfl⟩ := Text.exists_append_of_byteSize_le
      (hsource'.symm.trans hsource) (by omega)
    rw [hsource', List.append_assoc] at hsource
    have hsame := List.append_cancel_left hsource
    rw [Text.byteSize_append] at hp
    cases between with
    | nil =>
      cases hsame
      rw [Text.byteSize_nil] at hp
      obtain rfl : q = p := by omega
      exact .inl hx
    | cons e between =>
      -- no character starts within another one
      cases hsame
      rw [Text.byteSize_cons] at hp
      omega

/-- Behind an offset the template reads as the characters whose pieces start there. -/
theorem exists_append_of_spread {cs front back : List Char} (hsource : source = front ++ back)
    (hcs : ∀ x ∈ spread (Text.byteSize front) cs, x ∈ pieces) : ∃ rest, back = cs ++ rest := by
  induction cs generalizing front back with
  | nil => exact ⟨back, rfl⟩
  | cons c cs ih =>
    obtain ⟨front', back', hsource', hsize⟩ := h.exists_of_char (hcs _ List.mem_cons_self)
    obtain ⟨rfl, rfl⟩ := Text.append_inj_of_byteSize (hsource.symm.trans hsource')
      (by rw [hsize, Nat.zero_add])
    have hmore : ∀ x ∈ spread (Text.byteSize (front ++ [c])) cs, x ∈ pieces := by
      intro x hx
      rw [Text.byteSize_append, Text.byteSize_cons, Text.byteSize_nil, Nat.add_zero] at hx
      exact hcs x (List.mem_cons_of_mem _ hx)
    obtain ⟨rest, rfl⟩ := ih (by simpa using hsource') hmore
    exact ⟨rest, rfl⟩

/-- Characters side by side stand in the template together. -/
theorem standsAt_of_spread {cs : List Char} {start : Nat} (hne : cs ≠ [])
    (hcs : ∀ x ∈ spread start cs, x ∈ pieces) :
    StandsAt source ⟨start, start + Text.byteSize cs⟩ cs := by
  obtain ⟨c, more, rfl⟩ := List.exists_cons_of_ne_nil hne
  obtain ⟨front, back, hsource, hsize⟩ := h.exists_of_char (hcs _ List.mem_cons_self)
  rw [Nat.zero_add] at hsize
  subst hsize
  obtain ⟨rest, hrest⟩ := exists_append_of_spread h hsource hcs
  exact ⟨front, rest, by rw [hsource, hrest], rfl⟩

/-- A tag stands in the template, read with the delimiters in force after the tags before it. -/
theorem stands_of_tag {front back : List Mark} {mark : Mark}
    (htags : tagsOf pieces = front ++ mark :: back) :
    Stands (inForce d front) source mark ∧ ∃ cs ≠ [], StandsAt source mark.span cs := by
  obtain ⟨before, after, rfl, rfl⟩ := exists_of_tagsOf_eq htags
  obtain ⟨skipped, cs, rest, hsource, hstart, htag⟩ := h.exists_of_tag
  rw [Nat.zero_add] at hstart
  obtain ⟨written, hcs, hne, -, hspan⟩ := htag.exists_written
  constructor
  · refine ⟨cs, rest, ?_, htag⟩
    rw [hsource, hstart]
    exact Text.dropBytes?_append skipped cs
  · refine ⟨written, hne, skipped, rest, by rw [hsource, hcs], ?_⟩
    rw [hstart] at hspan
    exact hspan

end Pieces

/-! ### Closing tags -/

/-- Only closing tags give the mark of a closing tag. -/
theorem ofTag_eq_closing {t : Tag} {name : String} {span span' : Span}
    (h : Mark.ofTag t span = .ok (.closing name span')) :
    t.sigil = some .closing ∧ String.ofList t.value = name := by
  unfold Mark.ofTag at h
  split at h
  all_goals first
    | (rename_i hsigil; cases h; exact ⟨hsigil, rfl⟩)
    | cases h
    | (split at h <;> cases h)

namespace Tag

/-- How a tag was read: its sigil, the blanks behind that, and its value as written. -/
theorem exists_of_take? {d : Delimiters} {cs : List Char} {t : Tag} (h : take? d cs = some t) :
    ∃ value written, takeValue? d t.sigil ((takeSigil cs).2.2.dropWhile Text.isBlank) =
        some (value, written, t.rest) ∧ (takeSigil cs).1 = t.sigil ∧ t.value = Text.trimEnd value ∧
      t.written = (takeSigil cs).2.1 ++ (takeSigil cs).2.2.takeWhile Text.isBlank ++ written := by
  unfold take? at h
  simp only [Option.bind_eq_bind, Option.bind_eq_some_iff, Prod.exists, Option.pure_def,
    Option.some.injEq] at h
  obtain ⟨value, written, rest, hvalue, rfl⟩ := h
  exact ⟨value, written, hvalue, rfl, rfl, rfl⟩

theorem takeSigil_closing {cs : List Char} (h : (takeSigil cs).1 = some .closing) :
    (takeSigil cs).2.1 = ['/'] := by
  unfold takeSigil at h ⊢
  split at h
  · cases h
  · split at h
    · rename_i c cs sigil hc
      cases h
      unfold Sigil.ofChar? at hc
      split at hc <;> cases hc
      rfl
    · cases h

/-- Behind its sigil a closing tag holds blanks, its name, blanks and the closing delimiter. -/
theorem written_of_closing {d : Delimiters} {cs : List Char} {t : Tag} (h : take? d cs = some t)
    (hsigil : t.sigil = some .closing) :
    ∃ before after, (∀ c ∈ before, Text.isBlank c = true) ∧ (∀ c ∈ after, Text.isBlank c = true) ∧
      t.written = '/' :: (before ++ t.value ++ after ++ d.closing.toList) := by
  obtain ⟨value, written, htake, hmark, hvalue, hwritten⟩ := exists_of_take? h
  obtain ⟨after, happend, hafter⟩ := Text.exists_trimEnd_append value
  have hvalueWritten : written = value ++ d.closing.toList := by
    simp only [hsigil, takeValue?, Option.bind_eq_bind, Option.bind_eq_some_iff, Prod.exists,
      Option.pure_def, Option.some.injEq, Prod.mk.injEq] at htake
    obtain ⟨_, _, -, rfl, rfl, -⟩ := htake
    rfl
  refine ⟨(takeSigil cs).2.2.takeWhile Text.isBlank, after,
    fun c hc => List.all_eq_true.1 List.all_takeWhile c hc, hafter, ?_⟩
  rw [hwritten, takeSigil_closing (hmark.trans hsigil), hvalueWritten, hvalue,
    List.append_assoc _ (Text.trimEnd value), ← happend]
  simp

end Tag

/-- A closing tag as it is read is one as it is written. -/
theorem isClosingTag_of_startsWithTag {d : Delimiters} {position : Nat} {cs rest : List Char}
    {name : String} {span : Span}
    (h : StartsWithTag d position cs (.closing name span) rest) :
    ∃ written, cs = written ++ rest ∧ IsClosingTag d name written ∧
      span = ⟨position, position + Text.byteSize written⟩ := by
  obtain ⟨t, rfl, htake, -, hmark⟩ := h
  obtain ⟨hsigil, hname⟩ := ofTag_eq_closing hmark
  obtain ⟨before, after, hbefore, hafter, hwritten⟩ := Tag.written_of_closing htake hsigil
  refine ⟨d.opening.toList ++ t.written, by simp, ⟨before, after, hbefore, hafter, ?_⟩,
    (Mark.isTag_of_ofTag hmark).2⟩
  rw [hwritten, ← hname, String.toList_ofList]

/-! ### Sections -/

/-- A section of a tree has its tags among the marks, with what its children give between them. -/
theorem Unfolds.exists_block {tokens : List Token} {marks : List Mark} (h : Unfolds tokens marks)
    {t d : Delimiters} {inverted : Bool} {name : String} {span : Span} {children : List Token}
    {close : Nat} (hread : (Token.block inverted name span children close).ReadWith t d tokens) :
    ∃ front inner back stop, marks = front ++ .opening inverted name span ::
        (inner ++ .closing name ⟨close, stop⟩ :: back) ∧
      inForce d front = t ∧ Unfolds children inner := by
  induction h generalizing d with
  | nil => cases hread
  | @leaf l span' _ _ more ih =>
    cases hread with
    | tail hread =>
      obtain ⟨front, inner, back, stop, rfl, hfront, hinner⟩ := ih hread
      refine ⟨.leaf l span' :: front, inner, back, stop, rfl, ?_, hinner⟩
      rw [inForce_cons, ← Token.delimitersAfter_leaf, hfront]
  | @block inverted' name' span' close' stop' _ _ inside marks hinside _ ihInside ihMore =>
    cases hread with
    | head => exact ⟨[], inside, marks, stop', rfl, rfl, hinside⟩
    | inside hread =>
      obtain ⟨front, inner, back, stop, rfl, hfront, hinner⟩ := ihInside hread
      exact ⟨.opening inverted' name' span' :: front, inner,
        back ++ .closing name' ⟨close', stop'⟩ :: marks, stop, by simp, hfront, hinner⟩
    | tail hread =>
      obtain ⟨front, inner, back, stop, rfl, hfront, hinner⟩ := ihMore hread
      refine ⟨.opening inverted' name' span' :: (inside ++ .closing name' ⟨close', stop'⟩ :: front),
        inner, back, stop, by simp, ?_, hinner⟩
      rw [inForce_cons, inForce_append, inForce_cons, ← hfront, Token.delimitersAfter,
        hinside.delimitersAfterAll]
      rfl

/-! ### Runs and what they cover -/

/-- Characters side by side cover the place of their text. -/
theorem exists_spread_covers_iff {start p : Nat} {cs : List Char} :
    (∃ x ∈ spread start cs, x.span.Covers p) ↔ start ≤ p ∧ p < start + Text.byteSize cs := by
  induction cs generalizing start with
  | nil => simp [spread]
  | cons c cs ih =>
    have hc := c.utf8Size_pos
    simp only [spread, List.mem_cons, exists_eq_or_imp, ih, Piece.span_char]
    simp only [Span.Covers, Text.byteSize_cons]
    omega

theorem spread_bounds {start : Nat} {cs : List Char} (hne : cs ≠ []) :
    (∃ x ∈ spread start cs, x.span.start = start) ∧
      ∃ x ∈ spread start cs, x.span.stop = start + Text.byteSize cs := by
  induction cs generalizing start with
  | nil => exact absurd rfl hne
  | cons c cs ih =>
    refine ⟨⟨_, List.mem_cons_self, rfl⟩, ?_⟩
    cases cs with
    | nil => exact ⟨_, List.mem_cons_self, by simp [Piece.span]⟩
    | cons c' cs =>
      obtain ⟨-, x, hx, hstop⟩ := ih (List.cons_ne_nil _ _)
      refine ⟨x, List.mem_cons_of_mem _ hx, ?_⟩
      rw [hstop, Text.byteSize_cons c, Nat.add_assoc]

/-- A run covers what its pieces cover. -/
theorem Run.covers_iff {run : Run} {p : Nat} :
    run.mark.span.Covers p ↔ ∃ x ∈ run.pieces, x.span.Covers p := by
  cases run with
  | tag mark => simp [Run.mark, Run.pieces, Piece.span]
  | text cs start => exact exists_spread_covers_iff.symm

/-- A run starts and stops where a piece of it does. -/
theorem Run.bounds {run : Run} (h : ∀ cs start, run = .text cs start → cs ≠ []) :
    (∃ x ∈ run.pieces, x.span.start = run.mark.span.start) ∧
      ∃ x ∈ run.pieces, x.span.stop = run.mark.span.stop := by
  cases run with
  | tag mark => exact ⟨⟨_, List.mem_cons_self, rfl⟩, ⟨_, List.mem_cons_self, rfl⟩⟩
  | text cs start => exact spread_bounds (h cs start rfl)

/-- Runs are in order and do not overlap if their pieces are and do not. -/
theorem Apart.pairwise_mark {rs : List Run} (hapart : Apart rs)
    (h : (rs.flatMap Run.pieces).Pairwise fun x y => x.span.stop ≤ y.span.start) :
    (rs.map Run.mark).Pairwise fun x y => x.span.stop ≤ y.span.start := by
  rw [List.pairwise_map]
  refine (List.pairwise_flatMap.1 h).2.imp_of_mem fun {r r'} hr hr' hrr => ?_
  obtain ⟨-, x, hx, hxstop⟩ := Run.bounds fun cs start heq => hapart.ne_nil cs start (heq ▸ hr)
  obtain ⟨⟨y, hy, hystart⟩, -⟩ := Run.bounds fun cs start heq => hapart.ne_nil cs start (heq ▸ hr')
  rw [← hxstop, ← hystart]
  exact hrr x hx y hy

/-! ### Lines of pieces and lines of the template -/

section Lines

variable {d : Delimiters} {source : List Char} {pieces : List Piece} {marks : List Mark}
  (h : Scans d 0 source pieces)
  (hmarks : ∀ mark, mark ∈ marks ∧ mark.isTag = true ↔ .tag mark ∈ pieces)
include h hmarks

/-- A character lies outside tags if it is a piece of its own. -/
theorem outside_iff {c : Char} {p : Nat} (hc : charAt? source p = some c) :
    Outside marks p ↔ .char c p ∈ pieces := by
  constructor
  · intro hout
    rcases mem_or_exists_tag h hc with hmem | ⟨mark, hmem, hcovers⟩
    · exact hmem
    · obtain ⟨hmark, htag⟩ := (hmarks mark).2 hmem
      exact absurd hcovers (hout mark hmark htag)
  · intro hmem mark hmark htag hcovers
    have hchar : (Piece.char c p).span.Covers p :=
      ⟨Nat.le_refl p, Nat.lt_add_of_pos_right c.utf8Size_pos⟩
    cases h.tiles.eq_of_covers hmem ((hmarks mark).1 ⟨hmark, htag⟩) hchar hcovers

theorem breakAt_iff {b : Nat} : BreakAt source marks b ↔ .char '\n' b ∈ pieces := by
  constructor
  · rintro ⟨hchar, hout⟩
    exact (outside_iff h hmarks hchar).1 hout
  · intro hmem
    have hchar := charAt?_of_mem h hmem
    exact ⟨hchar, (outside_iff h hmarks hchar).2 hmem⟩

theorem onLine_iff {p q : Nat} : OnLine source marks p q ↔ SameLine pieces p q := by
  simp only [OnLine, SameLine, breakAt_iff h hmarks]

/-- A line of the template leaves no trace if its pieces do not. -/
theorem leavesNoTrace_iff {p : Nat} : LeavesNoTrace source marks p ↔ Traceless pieces p := by
  constructor
  · rintro ⟨⟨b, hb, hpb⟩, ⟨mark, hmark, htag, hon⟩, hvalueless, hblank⟩
    refine ⟨⟨b, (breakAt_iff h hmarks).1 hb, hpb⟩,
      ⟨mark, (hmarks mark).1 ⟨hmark, htag⟩, (onLine_iff h hmarks).1 hon⟩, fun x hx hon => ?_⟩
    cases x with
    | char c q =>
      have hchar := charAt?_of_mem h hx
      exact hblank q c hchar ((outside_iff h hmarks hchar).2 hx) ((onLine_iff h hmarks).2 hon)
    | tag mark =>
      have hvalue := hvalueless mark ((hmarks mark).2 hx).1 ((onLine_iff h hmarks).2 hon)
      simp [Piece.isUnobtrusive, hvalue]
  · rintro ⟨⟨b, hb, hpb⟩, ⟨mark, hmark, hon⟩, hall⟩
    obtain ⟨hmem, htag⟩ := (hmarks mark).2 hmark
    refine ⟨⟨b, (breakAt_iff h hmarks).2 hb, hpb⟩,
      ⟨mark, hmem, htag, (onLine_iff h hmarks).2 hon⟩,
      fun m hm hon => ?_, fun q c hc hout hon => ?_⟩
    · cases htext : m.isTag with
      | true =>
        have hunobtrusive :=
          hall (.tag m) ((hmarks m).1 ⟨hm, htext⟩) ((onLine_iff h hmarks).1 hon)
        simpa [Piece.isUnobtrusive] using hunobtrusive
      | false => exact Mark.isValue_of_text htext
    · exact hall (.char c q) ((outside_iff h hmarks hc).1 hout) ((onLine_iff h hmarks).1 hon)

end Lines

/-! ### The layout -/

section Kept

variable {d : Delimiters} {position : Nat} {source : List Char} {pieces : List Piece}
  (h : Scans d position source pieces)
include h

/-- What is kept of the pieces is what the runs hold. -/
theorem flatMap_runs_settle :
    (runs (settle pieces)).flatMap Run.pieces = settle pieces :=
  flatMap_pieces_runs ((settles pieces).glued h.tiles.glued)

/-- The pieces of a run are pieces of the template. -/
theorem mem_of_mem_runs {run : Run} (hrun : run ∈ runs (settle pieces)) {x : Piece}
    (hx : x ∈ run.pieces) : x ∈ pieces := by
  refine (settles pieces).sublist.subset ?_
  rw [← flatMap_runs_settle h]
  exact List.mem_flatMap.2 ⟨run, hrun, hx⟩

theorem isTag_of_mem_runs {mark : Mark} (hmark : .tag mark ∈ runs (settle pieces)) :
    mark.isTag = true :=
  h.isTag_of_tag (mem_of_mem_runs h hmark (List.mem_singleton_self _))

theorem filter_isTag_squash_settle :
    (squash (settle pieces)).filter Mark.isTag = tagsOf pieces := by
  have htags := tagsOf_flatMap_pieces fun _ hmark => isTag_of_mem_runs h hmark
  rw [squash, ← htags, flatMap_runs_settle h, (settles pieces).tagsOf_eq]

end Kept

section Scanned

variable {d : Delimiters} {source : List Char} {pieces : List Piece}
  (h : Scans d 0 source pieces)
include h

theorem mem_squash_settle_iff (mark : Mark) :
    mark ∈ squash (settle pieces) ∧ mark.isTag = true ↔ .tag mark ∈ pieces := by
  rw [← mem_tagsOf, ← filter_isTag_squash_settle h, List.mem_filter]

/-- An offset lies in a mark if it lies in a piece that is kept. -/
theorem exists_covers_squash_settle_iff {p : Nat} :
    (∃ mark ∈ squash (settle pieces), mark.span.Covers p) ↔
      ∃ x ∈ settle pieces, x.span.Covers p := by
  conv_rhs => rw [← flatMap_runs_settle h]
  simp only [squash, List.mem_map, List.mem_flatMap, exists_exists_and_eq_and, Run.covers_iff]
  constructor
  · rintro ⟨run, hrun, x, hx, hcovers⟩
    exact ⟨x, ⟨run, hrun, hx⟩, hcovers⟩
  · rintro ⟨x, ⟨run, hrun, hx⟩, hcovers⟩
    exact ⟨run, hrun, x, hx, hcovers⟩

/-- A text is a run of characters that stand side by side. -/
theorem exists_spread_of_text {mark : Mark} (hmark : mark ∈ squash (settle pieces))
    (htext : mark.isTag = false) :
    ∃ cs start, cs ≠ [] ∧ mark = (Run.text cs start).mark ∧
      ∀ x ∈ spread start cs, x ∈ pieces := by
  obtain ⟨run, hrun, rfl⟩ := List.mem_map.1 hmark
  cases run with
  | tag m => exact absurd (htext.symm.trans (isTag_of_mem_runs h hrun)) Bool.false_ne_true
  | text cs start =>
    exact ⟨cs, start, (apart_runs _).ne_nil cs start hrun, rfl,
      fun x hx => mem_of_mem_runs h hrun hx⟩

/-- Every mark stands in the template. -/
theorem standsAt_of_mem {mark : Mark} (hmark : mark ∈ squash (settle pieces)) :
    ∃ cs ≠ [], StandsAt source mark.span cs := by
  cases htag : mark.isTag with
  | true =>
    have hmem := mem_tagsOf.2 ((mem_squash_settle_iff h mark).1 ⟨hmark, htag⟩)
    obtain ⟨front, back, htags⟩ := List.append_of_mem hmem
    exact (stands_of_tag h htags).2
  | false =>
    obtain ⟨cs, start, hne, rfl, hpieces⟩ := exists_spread_of_text h hmark htag
    exact ⟨cs, hne, standsAt_of_spread h hne hpieces⟩

/-- A tag is read with the delimiters in force after the marks before it. -/
theorem stands_of_split {front back : List Mark} {mark : Mark}
    (hsplit : squash (settle pieces) = front ++ mark :: back) (htag : mark.isTag = true) :
    Stands (inForce d front) source mark := by
  have htags : tagsOf pieces = front.filter Mark.isTag ++ mark :: back.filter Mark.isTag := by
    rw [← filter_isTag_squash_settle h, hsplit, List.filter_append, List.filter_cons_of_pos htag]
  rw [← inForce_filter_isTag]
  exact (stands_of_tag h htags).1

theorem pairwise_squash_settle :
    (squash (settle pieces)).Pairwise fun x y => x.span.stop ≤ y.span.start := by
  refine (apart_runs _).pairwise_mark ?_
  rw [flatMap_runs_settle h]
  exact h.tiles.pairwise.sublist (settles pieces).sublist

theorem isChain_squash_settle :
    (squash (settle pieces)).IsChain fun x y => x.isTag = true ∨ y.isTag = true := by
  have htag : ∀ run ∈ runs (settle pieces), run.isText = false → run.mark.isTag = true := by
    intro run hrun htag
    cases run with
    | text cs start => cases htag
    | tag mark => exact isTag_of_mem_runs h hrun
  rw [squash, List.isChain_map]
  refine (apart_runs _).isChain.imp_of_mem_imp fun x y hx hy hor => ?_
  exact hor.imp (htag x hx) (htag y hy)

/-- The mark of a closing tag tells what is written there. -/
theorem closedAt_of_split {front back : List Mark} {name : String} {close stop : Nat}
    (hsplit : squash (settle pieces) = front ++ .closing name ⟨close, stop⟩ :: back) :
    ClosedAt d source (squash (settle pieces)) name close := by
  obtain ⟨cs, rest, hdrop, hstarts⟩ := stands_of_split h hsplit rfl
  obtain ⟨before, hsource, hclose⟩ := Text.dropBytes?_eq_some_iff.1 hdrop
  obtain ⟨written, rfl, hwritten, hspan⟩ := isClosingTag_of_startsWithTag hstarts
  have hstands : StandsAt source ⟨close, stop⟩ written := by
    refine ⟨before, rest, hsource, ?_⟩
    rw [hspan, hclose]
  exact ⟨front, stop, back, written, hsplit, hstands.slice?_eq, hwritten⟩

/-- From a mark to a later one there is a text. -/
theorem exists_slice?_of_split {front inner back : List Mark} {mark mark' : Mark}
    (hsplit : squash (settle pieces) = front ++ mark :: (inner ++ mark' :: back)) :
    ∃ cs, Text.slice? ⟨mark.span.stop, mark'.span.start⟩ source = some cs := by
  have hle : mark.span.stop ≤ mark'.span.start := by
    have hpairwise := pairwise_squash_settle h
    rw [hsplit] at hpairwise
    exact (List.pairwise_cons.1 (List.pairwise_append.1 hpairwise).2.1).1 mark' (by simp)
  have hmark : mark ∈ squash (settle pieces) := by simp [hsplit]
  have hmark' : mark' ∈ squash (settle pieces) := by simp [hsplit]
  obtain ⟨cs, -, before, after, hsource, hspan⟩ := standsAt_of_mem h hmark
  obtain ⟨cs', -, before', after', hsource', hspan'⟩ := standsAt_of_mem h hmark'
  rw [← List.append_assoc] at hsource
  rw [hspan, hspan', ← Text.byteSize_append] at hle ⊢
  exact Text.exists_slice? hsource hsource' hle

/-- A character is left out if it lies outside tags on a line that leaves no trace. -/
theorem dropped_iff {p : Nat} {c : Char} (hc : charAt? source p = some c) :
    (∀ mark ∈ squash (settle pieces), ¬ mark.span.Covers p) ↔
      Outside (squash (settle pieces)) p ∧ LeavesNoTrace source (squash (settle pieces)) p := by
  have hmarks := mem_squash_settle_iff h
  have hchar : (Piece.char c p).span.Covers p :=
    ⟨Nat.le_refl p, Nat.lt_add_of_pos_right c.utf8Size_pos⟩
  constructor
  · intro hnone
    have hout : Outside (squash (settle pieces)) p := fun mark hmark _ => hnone mark hmark
    have hmem := (outside_iff h hmarks hc).1 hout
    refine ⟨hout, (leavesNoTrace_iff h hmarks).2 ?_⟩
    -- on any other line the character would be kept, and its run would cover it
    by_contra htrace
    have hkept := (mem_settle_iff h.tiles hmem).2 htrace
    obtain ⟨mark, hmark, hcovers⟩ :=
      (exists_covers_squash_settle_iff h).2 ⟨_, hkept, hchar⟩
    exact hnone mark hmark hcovers
  · rintro ⟨hout, htrace⟩ mark hmark hcovers
    have hmem := (outside_iff h hmarks hc).1 hout
    obtain ⟨x, hx, hxp⟩ := (exists_covers_squash_settle_iff h).1 ⟨mark, hmark, hcovers⟩
    obtain rfl : x = .char c p :=
      h.tiles.eq_of_covers ((settles pieces).sublist.subset hx) hmem hxp hchar
    exact (mem_settle_iff h.tiles hmem).1 hx ((leavesNoTrace_iff h hmarks).1 htrace)

/-- **The layout of a template** whose sections are matched. -/
theorem layout_of_scans (hopened : (tagsOf pieces).foldlM matchMark [] = .ok []) :
    Layout d source (nest (squash (settle pieces))) (squash (settle pieces)) := by
  have hunfolds : Unfolds (nest (squash (settle pieces))) (squash (settle pieces)) := by
    refine unfolds_nest ?_
    rw [← foldlM_matchMark_filter, filter_isTag_squash_settle h, hopened]
  exact {
    unfolds := hunfolds
    ordered := pairwise_squash_settle h
    placed := fun mark hmark => by
      obtain ⟨cs, hne, hstands⟩ := standsAt_of_mem h hmark
      exact ⟨cs, hne, hstands.slice?_eq⟩
    texts := fun s span hmark => by
      obtain ⟨cs, start, hne, heq, hpieces⟩ := exists_spread_of_text h hmark rfl
      cases heq
      rw [String.toList_ofList]
      exact (standsAt_of_spread h hne hpieces).slice?_eq
    apart := isChain_squash_settle h
    tags := fun front mark back hsplit htag => stands_of_split h hsplit htag
    sections := fun inverted name span children close hwithin => by
      obtain ⟨t, hread⟩ := hwithin.exists_readWith d
      obtain ⟨front, inner, back, stop, hsplit, -, -⟩ := hunfolds.exists_block hread
      refine ⟨exists_slice?_of_split h hsplit, ?_⟩
      exact closedAt_of_split h (hsplit.trans (List.append_assoc front (_ :: inner) _).symm)
    dropped := fun p c hc => dropped_iff h hc }

end Scanned

/-! ### Texts without tags -/

/-- Where the opening delimiter does not occur there are only characters. -/
theorem scans_spread {d : Delimiters} {cs : List Char} (position : Nat)
    (h : ¬ d.opening.toList <:+: cs) : Scans d position cs (spread position cs) := by
  induction cs generalizing position with
  | nil => exact .done
  | cons c cs ih =>
    exact .char (fun hfirst => h hfirst.isInfix)
      (ih _ fun hinside => h (hinside.trans (List.suffix_cons c cs).isInfix))

/-- A text without tags is one token. -/
theorem parse_of_no_tag {d : Delimiters} {source : List Char} (hne : source ≠ [])
    (h : ¬ d.opening.toList <:+: source) :
    parse d source =
      .ok [.leaf (.text (String.ofList source)) ⟨0, Text.byteSize source⟩] := by
  have htags : tagsOf (spread 0 source) = [] := tagsOf_spread 0 source
  have hruns : runs (spread 0 source) = [.text source 0] := by
    have hapart : Apart [.text source 0] := Apart.nil.text_cons hne nofun
    simpa [Run.pieces] using runs_flatMap_pieces hapart
  refine parse_eq_ok_iff.2 ⟨_, scans_spread 0 h, by rw [htags]; rfl, ?_⟩
  rw [(settles _).eq_of_tagsOf_eq_nil htags, squash, hruns]
  simp [Run.mark, nest, Levels.place]

/-! ### Every template -/

/-- **Every character of a template is accounted for.** The tree of a template unfolds into marks
that stand in the template in order; what they leave out is what lies outside tags on the lines
that leave no trace. A text that is not empty and has no tags is one token. -/
theorem parse_layout (d : Delimiters) (source : List Char) :
    (∀ tokens, parse d source = .ok tokens → ∃ marks, Layout d source tokens marks) ∧
      (source ≠ [] → ¬ d.opening.toList <:+: source →
        parse d source =
          .ok [.leaf (.text (String.ofList source)) ⟨0, Text.byteSize source⟩]) := by
  refine ⟨fun tokens htokens => ?_, parse_of_no_tag⟩
  obtain ⟨pieces, hscans, hopened, rfl⟩ := parse_eq_ok_iff.1 htokens
  exact ⟨_, layout_of_scans hscans hopened⟩

/-- A section on lines of its own, with the delimiters changed inside it. -/
def creditsTemplate : List Char :=
  ("Cast\n  \x7b\x7b#cast\x7d\x7d \n- \x7b\x7bname\x7d\x7d\n" ++
    "\x7b\x7b=<% %>=\x7d\x7d\n<%/ cast %>\nÉnd").toList

theorem exists_layout_creditsTemplate :
    (∃ tokens marks, parse .standard creditsTemplate = .ok tokens ∧
        Layout .standard creditsTemplate tokens marks) ∧
      parse .standard ['C', 'a', 's', 't', '\n'] =
        .ok [.leaf (.text (String.ofList ['C', 'a', 's', 't', '\n'])) ⟨0, 5⟩] := by
  have hok : (parse .standard creditsTemplate).isOk = true := by decide +kernel
  constructor
  · cases htokens : parse .standard creditsTemplate with
    | error fault =>
      rw [htokens] at hok
      cases hok
    | ok tokens =>
      obtain ⟨marks, hlayout⟩ := (parse_layout .standard creditsTemplate).1 tokens htokens
      exact ⟨tokens, marks, rfl, hlayout⟩
  · exact (parse_layout .standard _).2 (List.cons_ne_nil _ _) (by decide +kernel)

end LiveTable.Template
