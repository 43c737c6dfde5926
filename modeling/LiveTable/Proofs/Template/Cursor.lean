import LiveTable.Proofs.Template.Printing

/-!
# A cursor over a text

A tag can be read by a cursor that knows nothing but its offset in the text. Every slice that it
takes could be out of range, and every literal that it looks for could be missed. Behind an opening
delimiter it finds the tag that stands there, or comes to the end of the text.

* `Cursor`: an offset in a text, with the moves that led to it;
* `Cursor.tail?`: the text behind it, if the offset lies between two characters;
* `Cursor.scan`, `Cursor.scanPadded`, `Cursor.scanUntil`, `Cursor.scanUntilPadded`: what it may
  pass;
* `Cursor.scanTag`: the tag behind an opening delimiter;
* `Forward source moves position`: the moves go on over characters of the text, but for those that
  take back a skip of blanks;
* `Forward.forall_mem`, `Forward.takes_back`: so every offset on the way lies between characters;
* `Cursor.At front rest`: the cursor stands between two parts of its text;
* `Cursor.Steady source c`: it is in the text, and never moved back but to take back such a skip;
* `Cursor.At.scanTag`: it reads the tag that stands there.
-/

namespace LiveTable.Template

open Text (byteSize isBlank)

/-- A move from one offset to another. -/
structure Move where
  start : Nat
  stop : Nat

/-- An offset in a text. The moves that led to it, the last one first, are kept for the record only:
nothing depends on them. -/
structure Cursor where
  source : List Char
  position : Nat
  moves : List Move

namespace Cursor

/-- The cursor in front of a text. -/
def start (source : List Char) : Cursor := ⟨source, 0, []⟩

/-- No text is left. -/
def atEnd (c : Cursor) : Bool := byteSize c.source ≤ c.position

/-- The text behind the cursor, if its offset lies between two characters. -/
def tail? (c : Cursor) : Option (List Char) := Text.dropBytes? c.position c.source

/-- The cursor at another offset. -/
def moveTo (c : Cursor) (position : Nat) : Cursor :=
  { c with position, moves := ⟨c.position, position⟩ :: c.moves }

/-- The cursor behind the given characters. -/
def advance (c : Cursor) (cs : List Char) : Cursor := c.moveTo (c.position + byteSize cs)

/-- Passes the literal if it comes next. -/
def scan (c : Cursor) (literal : List Char) : Option (Bool × Cursor) := do
  match literal.isPrefixOf? (← c.tail?) with
  | some _ => pure (true, c.advance literal)
  | none => pure (false, c)

/-- Passes a sigil if one comes next. -/
def scanSigil (c : Cursor) : Option (Option Sigil × Cursor) := do
  match ← c.tail? with
  | [] => pure (none, c)
  | ch :: _ =>
    match Sigil.ofChar? ch with
    | some sigil => pure (some sigil, c.advance [ch])
    | none => pure (none, c)

/-- Passes the blanks that come next. -/
def skipBlanks (c : Cursor) : Option Cursor := do
  pure (c.advance ((← c.tail?).takeWhile isBlank))

/-- Passes blanks and the literal behind them, or nothing. -/
def scanPadded (c : Cursor) (literal : List Char) : Option (Bool × Cursor) := do
  match ← (← c.skipBlanks).scan literal with
  | (true, after) => pure (true, after)
  | (false, after) => pure (false, after.moveTo c.position)

/-- Passes the text before the literal, or all of it if the literal does not occur. -/
def scanUntil (c : Cursor) (literal : List Char) : Option (List Char × Cursor) := do
  let tail ← c.tail?
  let skipped := match before? literal tail with
    | some (before, _) => before
    | none => tail
  pure (skipped, c.advance skipped)

/-- The same, but stops in front of the blanks before the literal. -/
def scanUntilPadded (c : Cursor) (literal : List Char) : Option (List Char × Cursor) := do
  let tail ← c.tail?
  let skipped := match before? literal tail with
    | some (before, _) => Text.trimEnd before
    | none => tail
  pure (skipped, c.advance skipped)

/-- A value that ends where the literal `stop` comes, of which `terminator` is passed too. -/
def scanTerminated (c : Cursor) (d : Delimiters) (stop terminator : List Char) :
    Option (List Char × Cursor) := do
  let (value, c) ← c.scanUntilPadded stop
  let (_, c) ← c.scanPadded terminator
  let (_, c) ← c.scanUntilPadded d.closing.toList
  pure (value, c)

/-- The value of a tag with the given sigil, the cursor then being in front of the closing delimiter
and the blanks before it. -/
def scanValue (c : Cursor) (d : Delimiters) : Option Sigil → Option (List Char × Cursor)
  | some .delimiters => c.scanTerminated d ['='] ['=']
  | some .braced => c.scanTerminated d ('\x7d' :: d.closing.toList) ['\x7d']
  | _ => c.scanUntilPadded d.closing.toList

/-- What is read of a tag: its sigil, its value and whether it is closed. -/
structure Reading where
  sigil : Option Sigil
  value : List Char
  closed : Bool

/-- The tag behind an opening delimiter. -/
def scanTag (c : Cursor) (d : Delimiters) : Option (Reading × Cursor) := do
  let (sigil, c) ← c.scanSigil
  let c ← c.skipBlanks
  let (value, c) ← c.scanValue d sigil
  let (closed, c) ← c.scanPadded d.closing.toList
  pure (⟨sigil, value, closed⟩, c)

end Cursor

/-! ### Moves -/

/-- The moves, the last one first, lead from the start of the text to the offset. Each goes on over
characters of the text, unless it takes back the move before it, which skipped blanks. -/
inductive Forward (source : List Char) : List Move → Nat → Prop where
  | start : Forward source [] 0
  | ahead {moves : List Move} {front cs back : List Char}
      (h : Forward source moves (byteSize front)) (hsource : source = front ++ (cs ++ back)) :
      Forward source (⟨byteSize front, byteSize (front ++ cs)⟩ :: moves) (byteSize (front ++ cs))
  | back {moves : List Move} {front blanks back : List Char}
      (h : Forward source (⟨byteSize front, byteSize (front ++ blanks)⟩ :: moves)
        (byteSize (front ++ blanks)))
      (hsource : source = front ++ (blanks ++ back)) (hblanks : ∀ c ∈ blanks, isBlank c = true) :
      Forward source (⟨byteSize (front ++ blanks), byteSize front⟩ ::
        ⟨byteSize front, byteSize (front ++ blanks)⟩ :: moves) (byteSize front)

/-- The offset lies in the text, between two characters or at an end. -/
def OnBoundary (source : List Char) (position : Nat) : Prop :=
  position ≤ byteSize source ∧ ∃ rest, Text.dropBytes? position source = some rest

theorem onBoundary_append (front rest : List Char) :
    OnBoundary (front ++ rest) (byteSize front) := by
  refine ⟨?_, rest, Text.dropBytes?_append front rest⟩
  rw [Text.byteSize_append]
  exact Nat.le_add_right _ _

namespace Forward

variable {source : List Char} {moves : List Move} {position : Nat}

/-- **Every offset on the way lies between characters of the text.** -/
theorem forall_mem (h : Forward source moves position) :
    OnBoundary source position ∧
      ∀ m ∈ moves, OnBoundary source m.start ∧ OnBoundary source m.stop := by
  induction h with
  | start => exact ⟨onBoundary_append [] source, nofun⟩
  | @ahead moves front cs back _ hsource ih =>
    have hstop : OnBoundary source (byteSize (front ++ cs)) := by
      rw [hsource, ← List.append_assoc]
      exact onBoundary_append (front ++ cs) back
    exact ⟨hstop, List.forall_mem_cons.2 ⟨⟨ih.1, hstop⟩, ih.2⟩⟩
  | @back moves front blanks back _ _ _ ih =>
    have hskip := (List.forall_mem_cons.1 ih.2).1
    exact ⟨hskip.1, List.forall_mem_cons.2 ⟨⟨ih.1, hskip.1⟩, ih.2⟩⟩

/-- **A move back takes back the move before it**, which skipped blanks. -/
theorem takes_back (h : Forward source moves position) {later earlier : List Move} {m : Move}
    (hm : moves = later ++ m :: earlier) (hback : m.stop < m.start) :
    (∃ first, earlier = ⟨m.stop, m.start⟩ :: first) ∧
      ∃ blanks, Text.slice? ⟨m.stop, m.start⟩ source = some blanks ∧
        ∀ c ∈ blanks, isBlank c = true := by
  induction h generalizing later with
  | start =>
    rw [List.nil_eq, List.append_eq_nil_iff] at hm
    cases hm.2
  | ahead _ _ ih =>
    rcases List.cons_eq_append_iff.1 hm with ⟨rfl, hcons⟩ | ⟨later, rfl, hmoves⟩
    · obtain ⟨rfl, rfl⟩ := List.cons.inj hcons
      rw [Text.byteSize_append] at hback
      exact absurd hback (Nat.not_lt.2 (Nat.le_add_right _ _))
    · exact ih hmoves
  | @back moves front blanks back _ hsource hblanks ih =>
    rcases List.cons_eq_append_iff.1 hm with ⟨rfl, hcons⟩ | ⟨later, rfl, hmoves⟩
    · obtain ⟨rfl, rfl⟩ := List.cons.inj hcons
      refine ⟨⟨moves, rfl⟩, blanks, ?_, hblanks⟩
      rw [hsource, Text.byteSize_append]
      exact Text.slice?_append front blanks back
    · exact ih hmoves

end Forward

/-! ### Standing in a text -/

/-- The literal starts with a character that is not blank. -/
def Visible (literal : List Char) : Prop := ∃ c, literal.head? = some c ∧ isBlank c = false

theorem Delimiters.visible_closing (d : Delimiters) : Visible d.closing.toList := by
  obtain ⟨c, closing, hclosing⟩ := List.exists_cons_of_ne_nil d.closing_ne_nil
  exact ⟨c, by rw [hclosing]; rfl, d.not_isBlank_of_mem_closing (by simp [hclosing])⟩

namespace Cursor

/-- The cursor stands between two parts of its text, where its moves led. -/
structure At (c : Cursor) (front rest : List Char) : Prop where
  source : c.source = front ++ rest
  position : c.position = byteSize front
  forward : Forward c.source c.moves c.position

/-- The cursor passes the literal with the blanks before it, and then stands between two parts of
its text. -/
def Passes (c : Cursor) (literal front rest : List Char) : Prop :=
  ∃ c', c.scanPadded literal = some (true, c') ∧ c'.At front rest

/-- The cursor does not pass the literal, and then stands at the end of its text. -/
def Fails (c : Cursor) (literal front : List Char) : Prop :=
  ∃ c', c.scanPadded literal = some (false, c') ∧ c'.At front []

/-- A value is read as it is found, the closing delimiter being next; if none is found the cursor
comes to the end. What is found is the value, all that is written from it to the end of the tag, and
the text behind. -/
def ReadsAs (d : Delimiters) (front rest : List Char) :
    Option (List Char × List Char × List Char) → Option (List Char × Cursor) → Prop
  | some (value, written, after), read => ∃ c, read = some (Text.trimEnd value, c) ∧
      c.Passes d.closing.toList (front ++ written) after
  | none, read => ∃ value c, read = some (value, c) ∧ c.Fails d.closing.toList (front ++ rest)

theorem at_start (source : List Char) : (start source).At [] source := ⟨rfl, rfl, .start⟩

/-- The cursor is in the text, between two characters or at an end, and so it was after every move.
It never moved back but to take back the move before, which skipped blanks. -/
structure Steady (source : List Char) (c : Cursor) : Prop where
  source_eq : c.source = source
  forward : Forward source c.moves c.position
  position : OnBoundary source c.position
  moves : ∀ m ∈ c.moves, OnBoundary source m.start ∧ OnBoundary source m.stop
  back : ∀ later m earlier, c.moves = later ++ m :: earlier → m.stop < m.start →
    (∃ first, earlier = ⟨m.stop, m.start⟩ :: first) ∧
      ∃ blanks, Text.slice? ⟨m.stop, m.start⟩ source = some blanks ∧
        ∀ ch ∈ blanks, isBlank ch = true

namespace At

variable {c : Cursor} {front rest : List Char}

theorem steady (h : c.At front rest) {source : List Char} (hsource : source = front ++ rest) :
    c.Steady source := by
  have hsame : c.source = source := h.source.trans hsource.symm
  have hforward := h.forward
  rw [hsame] at hforward
  exact ⟨hsame, hforward, hforward.forall_mem.1, hforward.forall_mem.2,
    fun _ _ _ hm hback => hforward.takes_back hm hback⟩

theorem tail? (h : c.At front rest) : c.tail? = some rest := by
  rw [Cursor.tail?, h.source, h.position, Text.dropBytes?_append]

theorem atEnd_iff (h : c.At front rest) : c.atEnd = true ↔ rest = [] := by
  rw [atEnd, h.source, h.position, Text.byteSize_append, decide_eq_true_eq]
  constructor
  · intro hle
    by_contra hne
    have := Text.byteSize_pos hne
    omega
  · rintro rfl
    exact Nat.le_refl _

theorem advance {cs : List Char} (h : c.At front (cs ++ rest)) :
    (c.advance cs).At (front ++ cs) rest := by
  have hstop : c.position + byteSize cs = byteSize (front ++ cs) := by
    rw [h.position, Text.byteSize_append]
  refine ⟨by rw [List.append_assoc]; exact h.source, hstop, ?_⟩
  have hforward := h.forward
  rw [Cursor.advance, moveTo]
  dsimp only
  rw [hstop]
  rw [h.position] at hforward ⊢
  exact .ahead hforward h.source

theorem advance_all (h : c.At front rest) : (c.advance rest).At (front ++ rest) [] := by
  rw [← List.append_nil rest] at h
  exact h.advance

/-- The cursor takes back a skip of blanks. -/
theorem takeBack {blanks : List Char} (h : c.At front (blanks ++ rest))
    (hblanks : ∀ ch ∈ blanks, isBlank ch = true) :
    ((c.advance blanks).moveTo c.position).At front (blanks ++ rest) := by
  have hskipped := h.advance.forward
  refine ⟨h.source, h.position, ?_⟩
  rw [h.advance.position] at hskipped
  rw [moveTo]
  dsimp only
  rw [h.advance.position]
  rw [Cursor.advance, moveTo] at hskipped ⊢
  dsimp only at hskipped ⊢
  rw [h.position, ← Text.byteSize_append] at hskipped ⊢
  exact .back hskipped h.source hblanks

/-! ### What the cursor passes -/

theorem scan_of_append {literal : List Char} (h : c.At front (literal ++ rest)) :
    c.scan literal = some (true, c.advance literal) := by
  simp only [scan, h.tail?, Option.bind_eq_bind, Option.bind_some, isPrefixOf?_append]
  rfl

theorem scan_of_not_prefix {literal : List Char} (h : c.At front rest)
    (hmiss : ¬ literal <+: rest) : c.scan literal = some (false, c) := by
  simp only [scan, h.tail?, Option.bind_eq_bind, Option.bind_some, isPrefixOf?_eq_none.2 hmiss]
  rfl

theorem skipBlanks (h : c.At front rest) :
    ∃ c', c.skipBlanks = some c' ∧
      c'.At (front ++ rest.takeWhile isBlank) (rest.dropWhile isBlank) := by
  refine ⟨c.advance (rest.takeWhile isBlank), ?_, ?_⟩
  · simp only [Cursor.skipBlanks, h.tail?, Option.bind_eq_bind, Option.bind_some]
    rfl
  · rw [← List.takeWhile_append_dropWhile (p := isBlank) (l := rest)] at h
    exact h.advance

/-- Blanks and the literal behind them are passed. -/
theorem scanPadded_of_append {blanks literal : List Char}
    (h : c.At front (blanks ++ (literal ++ rest))) (hblanks : ∀ ch ∈ blanks, isBlank ch = true)
    (hliteral : Visible literal) :
    ∃ c', c.scanPadded literal = some (true, c') ∧ c'.At (front ++ (blanks ++ literal)) rest := by
  obtain ⟨ch, hhead, hch⟩ := hliteral
  obtain ⟨more, rfl⟩ := List.head?_eq_some_iff.1 hhead
  have htake : (blanks ++ (ch :: more ++ rest)).takeWhile isBlank = blanks := by
    rw [List.takeWhile_append_of_pos hblanks, List.cons_append,
      List.takeWhile_cons_of_neg (by simp [hch]), List.append_nil]
  have hskipped : c.skipBlanks = some (c.advance blanks) := by
    simp only [Cursor.skipBlanks, h.tail?, Option.bind_eq_bind, Option.bind_some, htake]
    rfl
  have hafter := h.advance.advance
  rw [List.append_assoc] at hafter
  refine ⟨_, ?_, hafter⟩
  simp only [scanPadded, hskipped, h.advance.scan_of_append, Option.bind_eq_bind, Option.bind_some]
  rfl

/-- At the end of the text nothing is passed. -/
theorem scanPadded_of_end {literal : List Char} (h : c.At front []) (hliteral : Visible literal) :
    ∃ c', c.scanPadded literal = some (false, c') ∧ c'.At front [] := by
  obtain ⟨ch, hhead, -⟩ := hliteral
  have hskipped : c.skipBlanks = some (c.advance []) := by
    simp only [Cursor.skipBlanks, h.tail?, Option.bind_eq_bind, Option.bind_some]
    rfl
  have hmiss : ¬ literal <+: [] := by
    rintro hprefix
    rw [List.prefix_nil.1 hprefix] at hhead
    cases hhead
  have hend : (c.advance []).At front [] := by
    have hadvance := @At.advance c front [] [] h
    rwa [List.append_nil] at hadvance
  refine ⟨_, ?_, @At.takeBack c front [] [] h nofun⟩
  simp only [scanPadded, hskipped, hend.scan_of_not_prefix hmiss, Option.bind_eq_bind,
    Option.bind_some]
  rfl

theorem scanUntil_of_some {literal before after : List Char} (h : c.At front rest)
    (hbefore : before? literal rest = some (before, after)) :
    c.scanUntil literal = some (before, c.advance before) ∧
      (c.advance before).At (front ++ before) (literal ++ after) := by
  refine ⟨?_, ?_⟩
  · simp only [scanUntil, h.tail?, Option.bind_eq_bind, Option.bind_some, hbefore]
    rfl
  · rw [append_of_before? hbefore, List.append_assoc] at h
    exact h.advance

theorem scanUntil_of_none {literal : List Char} (h : c.At front rest)
    (hbefore : before? literal rest = none) :
    c.scanUntil literal = some (rest, c.advance rest) := by
  simp only [scanUntil, h.tail?, Option.bind_eq_bind, Option.bind_some, hbefore]
  rfl

theorem scanUntilPadded_of_some {literal before after : List Char} (h : c.At front rest)
    (hbefore : before? literal rest = some (before, after)) :
    ∃ blanks c', before = Text.trimEnd before ++ blanks ∧ (∀ ch ∈ blanks, isBlank ch = true) ∧
      c.scanUntilPadded literal = some (Text.trimEnd before, c') ∧
      c'.At (front ++ Text.trimEnd before) (blanks ++ (literal ++ after)) := by
  obtain ⟨blanks, hsplit, hblanks⟩ := Text.exists_trimEnd_append before
  refine ⟨blanks, c.advance (Text.trimEnd before), hsplit, hblanks, ?_, ?_⟩
  · simp only [scanUntilPadded, h.tail?, Option.bind_eq_bind, Option.bind_some, hbefore]
    rfl
  · have hrest := append_of_before? hbefore
    generalize Text.trimEnd before = word at hsplit ⊢
    rw [hrest, hsplit, List.append_assoc, List.append_assoc] at h
    exact h.advance

/-- Up to a literal that occurs, and past it. -/
theorem pass {literal before after : List Char} (h : c.At front rest) (hliteral : Visible literal)
    (hbefore : before? literal rest = some (before, after)) :
    ∃ c₁ c₂, c.scanUntilPadded literal = some (Text.trimEnd before, c₁) ∧
      c₁.scanPadded literal = some (true, c₂) ∧ c₂.At (front ++ (before ++ literal)) after := by
  obtain ⟨blanks, c₁, hsplit, hblanks, huntil, h₁⟩ := h.scanUntilPadded_of_some hbefore
  obtain ⟨c₂, hpadded, h₂⟩ := h₁.scanPadded_of_append hblanks hliteral
  refine ⟨c₁, c₂, huntil, hpadded, ?_⟩
  rwa [List.append_assoc, ← List.append_assoc _ blanks, ← hsplit] at h₂

theorem scanUntilPadded_of_none {literal : List Char} (h : c.At front rest)
    (hbefore : before? literal rest = none) :
    c.scanUntilPadded literal = some (rest, c.advance rest) := by
  simp only [scanUntilPadded, h.tail?, Option.bind_eq_bind, Option.bind_some, hbefore]
  rfl

/-! ### Tags -/

theorem scanSigil (h : c.At front rest) :
    ∃ c', c.scanSigil = some ((Tag.takeSigil rest).1, c') ∧
      c'.At (front ++ (Tag.takeSigil rest).2.1) (Tag.takeSigil rest).2.2 := by
  cases rest with
  | nil =>
    refine ⟨c, ?_, by rwa [Tag.takeSigil, List.append_nil]⟩
    simp only [Cursor.scanSigil, h.tail?, Option.bind_eq_bind, Option.bind_some]
    rfl
  | cons ch rest =>
    simp only [Cursor.scanSigil, h.tail?, Option.bind_eq_bind, Option.bind_some, Tag.takeSigil]
    cases Sigil.ofChar? ch with
    | some sigil => exact ⟨c.advance [ch], rfl, @At.advance c front rest [ch] h⟩
    | none => exact ⟨c, rfl, by rwa [List.append_nil]⟩

theorem readsAs_closing (h : c.At front rest) (d : Delimiters) :
    ReadsAs d front rest
      ((before? d.closing.toList rest).map fun (value, after) =>
        (value, value ++ d.closing.toList, after))
      (c.scanUntilPadded d.closing.toList) := by
  cases hbefore : before? d.closing.toList rest with
  | some parts =>
    obtain ⟨c₁, c₂, huntil, hpadded, h₂⟩ := h.pass d.visible_closing hbefore
    exact ⟨c₁, huntil, c₂, hpadded, h₂⟩
  | none =>
    exact ⟨rest, _, h.scanUntilPadded_of_none hbefore,
      h.advance_all.scanPadded_of_end d.visible_closing⟩

theorem scanUntilPadded_closing_of_end (h : c.At front []) (d : Delimiters) :
    ∃ value c', c.scanUntilPadded d.closing.toList = some (value, c') ∧
      c'.Fails d.closing.toList front := by
  have hend := h.readsAs_closing d
  have hnone : before? d.closing.toList [] = none := if_neg d.closing_ne_nil
  rw [hnone] at hend
  obtain ⟨value, c', huntil, hfails⟩ := hend
  exact ⟨value, c', huntil, by rwa [List.append_nil] at hfails⟩

/-- Without its end a value is all that is left of the text. -/
theorem scanTerminated_of_none {stop terminator : List Char} (h : c.At front rest)
    (d : Delimiters) (hterminator : Visible terminator) (hstop : before? stop rest = none) :
    ReadsAs d front rest none (c.scanTerminated d stop terminator) := by
  have huntil := h.scanUntilPadded_of_none hstop
  obtain ⟨c₂, hpadded, h₂⟩ := h.advance_all.scanPadded_of_end hterminator
  obtain ⟨_, c₃, hclosing, hfails⟩ := h₂.scanUntilPadded_closing_of_end d
  simp only [scanTerminated, huntil, hpadded, hclosing, Option.bind_eq_bind, Option.bind_some]
  exact ⟨rest, c₃, rfl, hfails⟩

/-- New delimiters end at an equals sign before the closing delimiter. -/
theorem readsAs_delimiters (h : c.At front rest) (d : Delimiters) :
    ReadsAs d front rest (Tag.takeValue? d (some .delimiters) rest)
      (c.scanValue d (some .delimiters)) := by
  have hequals : Visible ['='] := ⟨'=', rfl, by decide⟩
  rw [Tag.takeValue?, Cursor.scanValue]
  cases hbefore : before? ['='] rest with
  | none => exact h.scanTerminated_of_none d hequals hbefore
  | some parts =>
    obtain ⟨value, after⟩ := parts
    obtain ⟨c₁, c₂, huntil, hpadded, h₂⟩ := h.pass hequals hbefore
    have hclosing := h₂.readsAs_closing d
    simp only [scanTerminated, huntil, hpadded, Option.bind_eq_bind, Option.bind_some]
    cases hpadding : before? d.closing.toList after with
    | some parts =>
      obtain ⟨padding, after⟩ := parts
      rw [hpadding] at hclosing
      obtain ⟨c₃, hclosing, hpasses⟩ := hclosing
      simp only [hclosing, Option.bind_some]
      refine ⟨c₃, rfl, ?_⟩
      simpa using hpasses
    | none =>
      rw [hpadding] at hclosing
      obtain ⟨_, c₃, hclosing, hfails⟩ := hclosing
      simp only [hclosing, Option.bind_some]
      refine ⟨_, c₃, rfl, ?_⟩
      rw [append_of_before? hbefore]
      simpa using hfails

/-- A value in braces ends at a brace before the closing delimiter. -/
theorem readsAs_braced (h : c.At front rest) (d : Delimiters) :
    ReadsAs d front rest (Tag.takeValue? d (some .braced) rest)
      (c.scanValue d (some .braced)) := by
  have hbrace : Visible ['\x7d'] := ⟨'\x7d', rfl, by decide⟩
  rw [Tag.takeValue?, Cursor.scanValue]
  cases hbefore : before? ('\x7d' :: d.closing.toList) rest with
  | none => exact h.scanTerminated_of_none d hbrace hbefore
  | some parts =>
    obtain ⟨value, after⟩ := parts
    obtain ⟨blanks, c₁, hsplit, hblanks, huntil, h₁⟩ := h.scanUntilPadded_of_some hbefore
    obtain ⟨c₂, hpadded, h₂⟩ := @scanPadded_of_append c₁ _ (d.closing.toList ++ after) blanks
      ['\x7d'] h₁ hblanks hbrace
    -- behind the brace the closing delimiter comes at once
    have hnext : before? d.closing.toList (d.closing.toList ++ after) = some ([], after) :=
      @before?_append _ [] after d.closing_ne_nil (List.forall_mem_nil _)
    have hclosing := h₂.readsAs_closing d
    rw [hnext] at hclosing
    obtain ⟨c₃, hclosing, hpasses⟩ := hclosing
    simp only [scanTerminated, huntil, hpadded, hclosing, Option.bind_eq_bind, Option.bind_some]
    refine ⟨c₃, rfl, ?_⟩
    generalize Text.trimEnd value = word at hsplit hpasses
    rw [hsplit]
    simpa using hpasses

/-- **The value of a tag is read as it stands there.** -/
theorem readsAs (h : c.At front rest) (d : Delimiters) (sigil : Option Sigil) :
    ReadsAs d front rest (Tag.takeValue? d sigil rest) (c.scanValue d sigil) := by
  by_cases hdelimiters : sigil = some .delimiters
  · rw [hdelimiters]
    exact h.readsAs_delimiters d
  by_cases hbraced : sigil = some .braced
  · rw [hbraced]
    exact h.readsAs_braced d
  have hclosing := h.readsAs_closing d
  rw [Tag.takeValue?, Cursor.scanValue]
  · rw [Option.map_eq_bind] at hclosing
    exact hclosing
  all_goals assumption

/-- **The tag behind an opening delimiter is read as it stands there**; if it is not closed the
cursor comes to the end. -/
theorem scanTag (h : c.At front rest) (d : Delimiters) :
    match Tag.take? d rest with
    | some t => ∃ c', c.scanTag d = some (⟨t.sigil, t.value, true⟩, c') ∧
        c'.At (front ++ t.written) t.rest
    | none => ∃ sigil value c', c.scanTag d = some (⟨sigil, value, false⟩, c') ∧
        c'.At (front ++ rest) [] := by
  obtain ⟨c₁, hsigil, h₁⟩ := h.scanSigil
  obtain ⟨c₂, hblanks, h₂⟩ := h₁.skipBlanks
  have hvalue := h₂.readsAs d (Tag.takeSigil rest).1
  have hsplit := Tag.takeSigil_append rest
  rw [Tag.take?, Cursor.scanTag]
  generalize Tag.takeSigil rest = taken at hsigil hblanks hvalue hsplit ⊢
  obtain ⟨sigil, mark, rest'⟩ := taken
  dsimp only at hsigil hblanks hvalue hsplit ⊢
  simp only [hsigil, hblanks, Option.bind_eq_bind, Option.bind_some]
  cases htake : Tag.takeValue? d sigil (rest'.dropWhile isBlank) with
  | some parts =>
    obtain ⟨value, written, after⟩ := parts
    rw [htake] at hvalue
    obtain ⟨c₃, hscan, c₄, hclosed, h₄⟩ := hvalue
    simp only [hscan, hclosed, Option.bind_some]
    refine ⟨c₄, rfl, ?_⟩
    simpa using h₄
  | none =>
    rw [htake] at hvalue
    obtain ⟨value, c₃, hscan, c₄, hclosed, h₄⟩ := hvalue
    simp only [hscan, hclosed, Option.bind_some, Option.bind_none]
    refine ⟨sigil, value, c₄, rfl, ?_⟩
    rw [List.append_assoc, List.append_assoc, List.takeWhile_append_dropWhile, hsplit] at h₄
    exact h₄

end At

end Cursor

end LiveTable.Template
