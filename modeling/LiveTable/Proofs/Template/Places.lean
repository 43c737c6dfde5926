import LiveTable.Proofs.Template.Scanning
import LiveTable.Template.Token

/-!
# Places do not matter

What becomes of a template does not depend on where its pieces stand: when every offset is moved,
the same lines are settled, the same characters are one text, and the same sections are open.

* `Span.move`, `Mark.move`, `Piece.move`, `Fault.move`, …: every offset moved by a function;
* `moveResult`: a result or a fault, moved;
* `Mark.ofTag_move`: the mark of a tag in another place;
* `settle_move`, `runs_move`, `matchSections_move`: what is made of the pieces.
-/

namespace LiveTable

/-- The stretch with both ends moved. -/
def Span.move (π : Nat → Nat) (s : Span) : Span := ⟨π s.start, π s.stop⟩

@[simp] theorem Span.move_mk (π : Nat → Nat) (a b : Nat) :
    (Span.mk a b).move π = ⟨π a, π b⟩ := rfl

namespace Template

variable (π : Nat → Nat)

/-! ### Offsets moved -/

/-- The fault in another place. -/
def Fault.move : Fault → Fault
  | malformedDelimiters found span => .malformedDelimiters found (span.map (·.move π))
  | unclosedTag position closing span => .unclosedTag (π position) closing (span.move π)
  | unmatchedSection name expected span => .unmatchedSection name expected (span.move π)
  | unclosedSection name span => .unclosedSection name (span.move π)

/-- The mark in another place. -/
def Mark.move : Mark → Mark
  | leaf l span => .leaf l (span.move π)
  | opening inverted name span => .opening inverted name (span.move π)
  | closing name span => .closing name (span.move π)

/-- The piece in another place. -/
def Piece.move : Piece → Piece
  | char c start => .char c (π start)
  | tag mark => .tag (mark.move π)

/-- The scan with all its pieces in other places. -/
def Scan.move (s : Scan) : Scan := ⟨s.pieces.map (·.move π), s.fault.map (·.move π)⟩

/-- The run in another place. -/
def Run.move : Run → Run
  | text cs start => .text cs (π start)
  | tag mark => .tag (mark.move π)

/-- The open section in another place. -/
def OpenSection.move (s : OpenSection) : OpenSection := ⟨s.name, s.span.move π⟩

/-- What `f` makes of a result, or the fault with its offsets moved. -/
def moveResult {α β : Type} (f : α → β) : Except Fault α → Except Fault β
  | .ok a => .ok (f a)
  | .error fault => .error (fault.move π)

@[simp] theorem moveResult_ok {α β : Type} (f : α → β) (a : α) :
    moveResult π f (.ok a) = .ok (f a) := rfl

@[simp] theorem moveResult_error {α β : Type} (f : α → β) (fault : Fault) :
    moveResult π f (.error fault) = .error (fault.move π) := rfl

/-! ### Marks and pieces -/

@[simp] theorem Mark.delimitersAfter_move (d : Delimiters) (mark : Mark) :
    (mark.move π).delimitersAfter d = mark.delimitersAfter d := by
  rcases mark with ⟨_ | _ | _ | _ | _ | _, _⟩ | _ | _ <;> rfl

@[simp] theorem Mark.isValue_move (mark : Mark) : (mark.move π).isValue = mark.isValue := by
  rcases mark with ⟨_ | _ | _ | _ | _ | _, _⟩ | _ | _ <;> rfl

@[simp] theorem Mark.isTag_move (mark : Mark) : (mark.move π).isTag = mark.isTag := by
  rcases mark with ⟨_ | _ | _ | _ | _ | _, _⟩ | _ | _ <;> rfl

/-- The same tag in another place gives the same mark there. -/
theorem Mark.ofTag_move (t : Tag) (span : Span) :
    Mark.ofTag t (span.move π) = moveResult π (·.move π) (Mark.ofTag t span) := by
  unfold Mark.ofTag
  split
  all_goals first
    | rfl
    | (dsimp only; split <;> rfl)

@[simp] theorem Piece.isTag_move (x : Piece) : (x.move π).isTag = x.isTag := by cases x <;> rfl

@[simp] theorem Piece.isLineBreak_move (x : Piece) : (x.move π).isLineBreak = x.isLineBreak := by
  cases x <;> rfl

@[simp] theorem Piece.isUnobtrusive_move (x : Piece) :
    (x.move π).isUnobtrusive = x.isUnobtrusive := by
  cases x with
  | char c start => rfl
  | tag mark => simp only [Piece.move, Piece.isUnobtrusive, Mark.isValue_move]

/-! ### Lines and runs -/

theorem settleLine_move (line : List Piece) :
    settleLine (line.map (·.move π)) = (settleLine line).map (·.move π) := by
  have hstandalone : standalone (line.map (·.move π)) = standalone line := by
    simp [standalone, Function.comp_def]
  rw [settleLine, settleLine, hstandalone]
  split
  · simp [List.filter_map, Function.comp_def]
  · rfl

theorem settleFrom_move (line pieces : List Piece) :
    settleFrom (line.map (·.move π)) (pieces.map (·.move π)) =
      (settleFrom line pieces).map (·.move π) := by
  induction pieces generalizing line with
  | nil => simp [settleFrom]
  | cons x pieces ih =>
    rw [List.map_cons, settleFrom, settleFrom, Piece.isLineBreak_move]
    split
    · rw [List.map_append, ← ih [], ← settleLine_move, List.map_reverse, List.map_cons,
        List.map_nil]
    · rw [← ih, List.map_cons]

/-- **The same lines are dropped.** -/
theorem settle_move (pieces : List Piece) :
    settle (pieces.map (·.move π)) = (settle pieces).map (·.move π) :=
  settleFrom_move π [] pieces

/-- **The same characters belong together.** -/
theorem runs_move (pieces : List Piece) :
    runs (pieces.map (·.move π)) = (runs pieces).map (·.move π) := by
  induction pieces with
  | nil => rfl
  | cons x pieces ih =>
    cases x with
    | tag mark => rw [List.map_cons, Piece.move, runs, runs, ih, List.map_cons, Run.move]
    | char c start =>
      rw [List.map_cons, Piece.move, runs, runs, ih]
      rcases runs pieces with _ | ⟨cs, next⟩ | mark <;> rfl

/-! ### Sections -/

theorem matchSection_move (opened : List OpenSection) (x : Piece) :
    matchSection (opened.map (·.move π)) (x.move π) =
      moveResult π (·.map (·.move π)) (matchSection opened x) := by
  rcases x with _ | ⟨⟨_ | _ | _ | _ | _ | _, _⟩ | _ | ⟨name, span⟩⟩ <;> try rfl
  rcases opened with _ | ⟨innermost, outer⟩
  · rfl
  · simp only [List.map_cons, Piece.move, Mark.move, matchSection, OpenSection.move]
    split <;> rfl

theorem foldlM_matchSection_move (pieces : List Piece) (opened : List OpenSection) :
    (pieces.map (·.move π)).foldlM matchSection (opened.map (·.move π)) =
      moveResult π (·.map (·.move π)) (pieces.foldlM matchSection opened) := by
  induction pieces generalizing opened with
  | nil => rfl
  | cons x pieces ih =>
    rw [List.map_cons, List.foldlM_cons, List.foldlM_cons, matchSection_move]
    cases matchSection opened x with
    | error fault => rfl
    | ok opened => exact ih opened

/-- **The same sections are open**, or the same fault is found. -/
theorem matchSections_move (pieces : List Piece) :
    matchSections (pieces.map (·.move π)) =
      moveResult π (·.map (·.move π)) (matchSections pieces) :=
  foldlM_matchSection_move π pieces []

end Template

end LiveTable
