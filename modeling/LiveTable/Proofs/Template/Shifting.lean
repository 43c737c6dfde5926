import LiveTable.Proofs.Template.Places
import LiveTable.Proofs.Template.Settling

/-!
# Shift invariance

A text that stands further on in a template is read as it would be read on its own, with all places
further on by as much.

* `Span.shift`, `Mark.shift`, `Piece.shift`, `Token.shift`, `Fault.shift`, …: places further on;
* `scan_shift`: scanning from a later position;
* `settle_shift`, `squash_shift`, `nest_shift`: what is made of the pieces;
* `Scan.tree`: the tree of a scanned text, or its first fault;
* `Scan.tree_shift`: both are shifted with the scan.
-/

namespace LiveTable

/-- The stretch `n` bytes further on. -/
def Span.shift (n : Nat) (s : Span) : Span := ⟨s.start + n, s.stop + n⟩

@[simp] theorem Span.shift_mk (n a b : Nat) : (Span.mk a b).shift n = ⟨a + n, b + n⟩ := rfl

@[simp] theorem Span.start_shift (n : Nat) (s : Span) : (s.shift n).start = s.start + n := rfl

@[simp] theorem Span.stop_shift (n : Nat) (s : Span) : (s.shift n).stop = s.stop + n := rfl

namespace Template

variable (n : Nat)

/-! ### Places further on -/

/-- The fault in a text that stands `n` bytes further on. -/
def Fault.shift : Fault → Fault
  | malformedDelimiters found span => .malformedDelimiters found (span.map (·.shift n))
  | unclosedTag position closing span => .unclosedTag (position + n) closing (span.shift n)
  | unmatchedSection name expected span => .unmatchedSection name expected (span.shift n)
  | unclosedSection name span => .unclosedSection name (span.shift n)

/-- The mark `n` bytes further on. -/
def Mark.shift : Mark → Mark
  | leaf l span => .leaf l (span.shift n)
  | opening inverted name span => .opening inverted name (span.shift n)
  | closing name span => .closing name (span.shift n)

/-- The piece `n` bytes further on. -/
def Piece.shift : Piece → Piece
  | char c start => .char c (start + n)
  | tag mark => .tag (mark.shift n)

/-- The scan of a text that stands `n` bytes further on. -/
def Scan.shift (s : Scan) : Scan := ⟨s.pieces.map (·.shift n), s.fault.map (·.shift n)⟩

/-- The run `n` bytes further on. -/
def Run.shift : Run → Run
  | text cs start => .text cs (start + n)
  | tag mark => .tag (mark.shift n)

/-- The open section `n` bytes further on. -/
def OpenSection.shift (s : OpenSection) : OpenSection := ⟨s.name, s.span.shift n⟩

mutual

/-- The token `n` bytes further on, with all tokens inside it. -/
def Token.shift : Token → Token
  | .leaf l span => .leaf l (span.shift n)
  | .block inverted name span children close =>
    .block inverted name (span.shift n) (Token.shiftAll children) (close + n)

/-- The tokens `n` bytes further on. -/
def Token.shiftAll : List Token → List Token
  | [] => []
  | token :: tokens => token.shift :: Token.shiftAll tokens

end

theorem Token.shiftAll_eq_map (tokens : List Token) :
    Token.shiftAll n tokens = tokens.map (·.shift n) := by
  induction tokens with
  | nil => rfl
  | cons token tokens ih => rw [Token.shiftAll, ih, List.map_cons]

@[simp] theorem Token.shift_leaf (l : Leaf) (span : Span) :
    (Token.leaf l span).shift n = .leaf l (span.shift n) := by rw [Token.shift]

@[simp] theorem Token.shift_block (inverted : Bool) (name : String) (span : Span)
    (children : List Token) (close : Nat) :
    (Token.block inverted name span children close).shift n =
      .block inverted name (span.shift n) (children.map (·.shift n)) (close + n) := by
  rw [Token.shift, Token.shiftAll_eq_map]

/-- The levels `n` bytes further on. -/
def Levels.shift (levels : Levels) : Levels :=
  ⟨levels.siblings.map (·.shift n),
    levels.outer.map fun level => (level.1 + n, level.2.map (·.shift n))⟩

/-! ### Shifts are moves -/

theorem Mark.shift_eq_move : Mark.shift n = Mark.move (· + n) := by
  funext mark
  cases mark <;> rfl

theorem Piece.shift_eq_move : Piece.shift n = Piece.move (· + n) := by
  funext x
  cases x with
  | char c start => rfl
  | tag mark => exact congrArg Piece.tag (congrFun (Mark.shift_eq_move n) mark)

theorem Run.shift_eq_move : Run.shift n = Run.move (· + n) := by
  funext run
  cases run with
  | text cs start => rfl
  | tag mark => exact congrArg Run.tag (congrFun (Mark.shift_eq_move n) mark)

theorem Fault.shift_eq_move : Fault.shift n = Fault.move (· + n) := by
  funext fault
  cases fault <;> rfl

theorem Scan.shift_eq_move : Scan.shift n = Scan.move (· + n) := by
  funext s
  rw [Scan.shift, Piece.shift_eq_move, Fault.shift_eq_move, Scan.move]

/-! ### Scanning -/

/-- A result in a text that stands `n` bytes further on: what `move` makes of it, or the fault. -/
def shiftResult (move : α → α) : Except Fault α → Except Fault α
  | .ok a => .ok (move a)
  | .error fault => .error (fault.shift n)

@[simp] theorem shiftResult_ok (move : α → α) (a : α) :
    shiftResult n move (.ok a) = .ok (move a) := rfl

@[simp] theorem shiftResult_error (move : α → α) (fault : Fault) :
    shiftResult n move (.error fault : Except Fault α) = .error (fault.shift n) := rfl

theorem shiftResult_eq_move (move : α → α) : shiftResult n move = moveResult (· + n) move := by
  funext result
  cases result with
  | ok a => rfl
  | error fault => exact congrArg Except.error (congrFun (Fault.shift_eq_move n) fault)

theorem Mark.delimitersAfter_shift (d : Delimiters) (mark : Mark) :
    (mark.shift n).delimitersAfter d = mark.delimitersAfter d := by
  rw [Mark.shift_eq_move, Mark.delimitersAfter_move]

/-- The same tag further on gives the same mark further on. -/
theorem Mark.ofTag_shift (t : Tag) (span : Span) :
    Mark.ofTag t (span.shift n) = shiftResult n (·.shift n) (Mark.ofTag t span) := by
  rw [shiftResult_eq_move, Mark.shift_eq_move]
  exact Mark.ofTag_move (· + n) t span

/-- What the scanner does where it meets an opening delimiter. -/
theorem scan_opening {d : Delimiters} {cs inside : List Char}
    (h : d.opening.toList.isPrefixOf? cs = some inside) (position : Nat) :
    scan d position cs =
      let start := position + Text.byteSize d.opening.toList
      match Tag.take? d inside with
      | none =>
        ⟨[], some (.unclosedTag (start + Text.byteSize inside) d.closing ⟨position, start⟩)⟩
      | some t =>
        match Mark.ofTag t ⟨position, start + Text.byteSize t.written⟩ with
        | .error fault => ⟨[], some fault⟩
        | .ok mark =>
          (scan (mark.delimitersAfter d) (start + Text.byteSize t.written) t.rest).cons
            (.tag mark) := by
  cases cs with
  | nil =>
    have hnil := append_of_isPrefixOf? h
    exact absurd (List.append_eq_nil_iff.1 hnil.symm).1 d.opening_ne_nil
  | cons c cs =>
    rw [scan]
    split
    · rename_i hnone
      rw [h] at hnone
      cases hnone
    · rename_i found hsome
      obtain rfl := Option.some.inj (h.symm.trans hsome)
      dsimp only
      split
      · rename_i hclosed
        rw [hclosed]
      · rename_i t hclosed
        cases hmark : Mark.ofTag t ⟨position,
            position + Text.byteSize d.opening.toList + Text.byteSize t.written⟩ with
        | error fault => simp only [hclosed, hmark]
        | ok mark => simp only [hclosed, hmark]

/-- **Scanning from a later position finds the same, further on.** -/
theorem scan_shift (d : Delimiters) (position : Nat) (cs : List Char) :
    scan d (position + n) cs = (scan d position cs).shift n := by
  fun_induction scan d position cs with
  | case1 => rw [scan]; rfl
  | case2 d position c cs hfound ih =>
    rw [scan_char (isPrefixOf?_eq_none.1 hfound), Nat.add_right_comm, ih]
    rfl
  | case3 d position c cs inside hfound start hclosed =>
    rw [scan_opening hfound, hclosed]
    simp only [Scan.shift, List.map_nil, Option.map_some, Fault.shift, Span.shift_mk, start,
      Nat.add_right_comm _ n]
  | case4 d position c cs inside hfound start t hclosed stop fault hmark =>
    have hshift := Mark.ofTag_shift n t ⟨position, stop⟩
    rw [hmark, Span.shift_mk, shiftResult_error] at hshift
    simp only [stop, start] at hshift
    simp only [scan_opening hfound, hclosed, Nat.add_right_comm _ n, hshift]
    rfl
  | case5 d position c cs inside hfound start t hclosed stop mark hmark ih =>
    have hshift := Mark.ofTag_shift n t ⟨position, stop⟩
    rw [hmark, Span.shift_mk, shiftResult_ok] at hshift
    simp only [stop, start] at hshift ih
    simp only [scan_opening hfound, hclosed, Nat.add_right_comm _ n, hshift,
      Mark.delimitersAfter_shift, ih]
    rfl

/-! ### Lines, runs and trees -/

/-- The same lines are dropped further on. -/
theorem settle_shift (pieces : List Piece) :
    settle (pieces.map (·.shift n)) = (settle pieces).map (·.shift n) := by
  rw [Piece.shift_eq_move]
  exact settle_move (· + n) pieces

theorem runs_shift (pieces : List Piece) :
    runs (pieces.map (·.shift n)) = (runs pieces).map (·.shift n) := by
  rw [Piece.shift_eq_move, Run.shift_eq_move]
  exact runs_move (· + n) pieces

theorem Run.mark_shift (run : Run) : (run.shift n).mark = run.mark.shift n := by
  cases run with
  | text cs start => simp [Run.shift, Run.mark, Mark.shift, Nat.add_right_comm]
  | tag mark => rfl

theorem squash_shift (pieces : List Piece) :
    squash (pieces.map (·.shift n)) = (squash pieces).map (·.shift n) := by
  rw [squash, runs_shift, squash, List.map_map, List.map_map]
  exact List.map_congr_left fun run _ => run.mark_shift n

theorem Levels.place_shift (mark : Mark) (levels : Levels) :
    (levels.shift n).place (mark.shift n) = (levels.place mark).shift n := by
  obtain ⟨siblings, outer⟩ := levels
  cases mark with
  | leaf l span => simp [Levels.shift, Levels.place, Mark.shift]
  | closing name span => simp [Levels.shift, Levels.place, Mark.shift]
  | opening inverted name span =>
    rcases outer with _ | ⟨⟨close, after⟩, outer⟩ <;>
      simp [Levels.shift, Levels.place, Mark.shift]

theorem foldr_place_shift (marks : List Mark) :
    (marks.map (·.shift n)).foldr Levels.place ⟨[], []⟩ =
      (marks.foldr Levels.place ⟨[], []⟩).shift n := by
  induction marks with
  | nil => rfl
  | cons mark marks ih => rw [List.map_cons, List.foldr_cons, List.foldr_cons, ih,
      Levels.place_shift]

/-- The same tree grows further on. -/
theorem nest_shift (marks : List Mark) :
    nest (marks.map (·.shift n)) = (nest marks).map (·.shift n) := by
  rw [nest, foldr_place_shift, nest, Levels.shift]

/-- The same sections are open further on. -/
theorem matchSections_shift (pieces : List Piece) :
    matchSections (pieces.map (·.shift n)) =
      shiftResult n (·.map (·.shift n)) (matchSections pieces) := by
  rw [Piece.shift_eq_move, shiftResult_eq_move]
  exact matchSections_move (· + n) pieces

/-! ### Parsing -/

/-- Behind pieces the sections are matched that these leave open. -/
theorem matchSections_append {pieces : List Piece} {opened : List OpenSection}
    (h : matchSections pieces = .ok opened) (more : List Piece) :
    matchSections (pieces ++ more) = more.foldlM matchSection opened := by
  rw [matchSections, List.foldlM_append]
  change (matchSections pieces >>= _) = _
  rw [h]
  rfl

/-- The tree of a scanned text. Of several faults the first in the text counts; an open section is
a fault at the end. -/
def Scan.tree (s : Scan) : Except Fault (List Token) := do
  let opened ← matchSections s.pieces
  match s.fault, opened with
  | some fault, _ => throw fault
  | none, innermost :: _ => throw (.unclosedSection innermost.name innermost.span)
  | none, [] => pure (nest (squash (settle s.pieces)))

theorem parse_eq_tree (d : Delimiters) (text : List Char) :
    parse d text = (scan d 0 text).tree := rfl

/-- When a scanned text has a tree, and which. -/
theorem Scan.tree_eq_ok_iff {s : Scan} {tokens : List Token} :
    s.tree = .ok tokens ↔ s.fault = none ∧ matchSections s.pieces = .ok [] ∧
      nest (squash (settle s.pieces)) = tokens := by
  obtain ⟨pieces, fault⟩ := s
  simp only [Scan.tree, bind, Except.bind]
  cases matchSections pieces with
  | error fault => simp
  | ok opened =>
    cases fault with
    | some fault => simp [throw, throwThe, MonadExceptOf.throw]
    | none => cases opened <;> simp [throw, throwThe, MonadExceptOf.throw, pure, Except.pure]

/-- **The tree of a text further on is the tree of the text, further on**, and so is its fault. -/
theorem Scan.tree_shift (s : Scan) :
    (s.shift n).tree = shiftResult n (·.map (·.shift n)) s.tree := by
  have hmatch := matchSections_shift n s.pieces
  obtain ⟨pieces, fault⟩ := s
  simp only [Scan.tree, Scan.shift, bind, Except.bind] at hmatch ⊢
  rw [hmatch]
  cases matchSections pieces with
  | error fault => rfl
  | ok opened =>
    cases fault with
    | some fault => rfl
    | none =>
      cases opened with
      | cons innermost outer => rfl
      | nil =>
        simp only [shiftResult_ok, List.map_nil, Option.map_none, pure, Except.pure, settle_shift,
          squash_shift, nest_shift]

/-- A text that starts later in a template. -/
theorem tree_scan (d : Delimiters) (position : Nat) (text : List Char) :
    (scan d position text).tree = shiftResult position (·.map (·.shift position)) (parse d text) := by
  rw [parse_eq_tree, ← Scan.tree_shift, ← scan_shift, Nat.zero_add]

end Template

end LiveTable
