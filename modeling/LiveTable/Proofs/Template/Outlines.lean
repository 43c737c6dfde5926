import LiveTable.Proofs.Template.Framing
import LiveTable.Proofs.Template.Layout
import LiveTable.Proofs.Template.Printing
import LiveTable.Proofs.Template.Shifting

/-!
# Outlines

The outline of a template is what is said in it, wherever it is said: its tree without places, or
the kind and the names of its fault. Two texts whose pieces are the same but for their places have
the same outline, and from the outline all tags can be read off again.

* `nowhere`: moves every offset to the start;
* `outline`: the result of parsing without places;
* `Scan.outline_tree_congr`: scans that differ in places have the same outline;
* `scan_move_nowhere`: a text is scanned alike in every place;
* `marksOf`: the marks of trees, as they are met from left to right;
* `filter_marksOf_parse`: the tags of a template are those of its outline.
-/

namespace LiveTable.Template

/-- Moves every offset to the start. -/
def nowhere : Nat → Nat := fun _ => 0

/-- The result of parsing without places. -/
def outline : Except Fault (List Token) → Except Fault (List Tree) := moveResult nowhere bares

@[simp] theorem Span.move_nowhere (s : Span) : s.move nowhere = ⟨0, 0⟩ := rfl

/-! ### Moved again -/

section Again

variable (π : Nat → Nat)

@[simp] theorem Mark.move_move_nowhere (mark : Mark) :
    (mark.move π).move nowhere = mark.move nowhere := by
  cases mark <;> rfl

@[simp] theorem Piece.move_move_nowhere (x : Piece) :
    (x.move π).move nowhere = x.move nowhere := by
  cases x with
  | char c start => rfl
  | tag mark => exact congrArg Piece.tag (mark.move_move_nowhere π)

@[simp] theorem Fault.move_move_nowhere (fault : Fault) :
    (fault.move π).move nowhere = fault.move nowhere := by
  cases fault with
  | malformedDelimiters found span => cases span <;> rfl
  | _ => rfl

theorem Scan.move_move_nowhere (s : Scan) : (s.move π).move nowhere = s.move nowhere := by
  simp [Scan.move, Function.comp_def]

end Again

/-! ### From pieces to trees -/

/-- The place of a run decides over nothing but the places of its mark. -/
theorem Run.mark_move_nowhere (run : Run) :
    (run.move nowhere).mark.move nowhere = run.mark.move nowhere := by
  cases run with
  | text cs start => rfl
  | tag mark => exact mark.move_move_nowhere nowhere

theorem squash_move_nowhere (pieces : List Piece) :
    (squash (pieces.map (·.move nowhere))).map (·.move nowhere) =
      (squash pieces).map (·.move nowhere) := by
  rw [squash, runs_move, squash]
  simp [Function.comp_def, Run.mark_move_nowhere]

/-- The levels without places. -/
def Levels.bare (levels : Levels) : List Tree × List (List Tree) :=
  (bares levels.siblings, levels.outer.map fun level => bares level.2)

theorem Levels.bare_place_congr {levels levels' : Levels} (h : levels.bare = levels'.bare)
    (mark : Mark) : (levels.place (mark.move nowhere)).bare = (levels'.place mark).bare := by
  obtain ⟨siblings, outer⟩ := levels
  obtain ⟨siblings', outer'⟩ := levels'
  obtain ⟨hsiblings, houter⟩ := Prod.mk.inj h
  dsimp only at hsiblings houter
  cases mark with
  | leaf l span =>
    simp only [Mark.move, place, bare, bares, Token.bare, hsiblings, houter]
  | closing name span =>
    simp only [Mark.move, place, bare, bares, List.map_cons, hsiblings, houter]
  | opening inverted name span =>
    rcases outer with _ | ⟨⟨close, after⟩, outer⟩ <;>
      rcases outer' with _ | ⟨⟨close', after'⟩, outer'⟩
    · simp only [Mark.move, place, bare, bares, Token.bare, hsiblings, List.map_nil]
    · cases houter
    · cases houter
    · obtain ⟨hafter, hmore⟩ := List.cons.inj houter
      simp only [Mark.move, place, bare, bares, Token.bare, hsiblings, hafter, hmore]

theorem bares_nest_move_nowhere (marks : List Mark) :
    bares (nest (marks.map (·.move nowhere))) = bares (nest marks) := by
  have hlevels : ((marks.map (·.move nowhere)).foldr Levels.place ⟨[], []⟩).bare =
      (marks.foldr Levels.place ⟨[], []⟩).bare := by
    induction marks with
    | nil => rfl
    | cons mark marks ih =>
      rw [List.map_cons, List.foldr_cons, List.foldr_cons]
      exact Levels.bare_place_congr ih mark
  exact congrArg Prod.fst hlevels

/-- The tree of some pieces does not depend on their places, but for its own places. -/
theorem bares_nest_squash_settle (pieces : List Piece) :
    bares (nest (squash (settle (pieces.map (·.move nowhere))))) =
      bares (nest (squash (settle pieces))) := by
  rw [← bares_nest_move_nowhere, settle_move, squash_move_nowhere, bares_nest_move_nowhere]

/-! ### Outlines of scans -/

/-- The outline of a scanned text does not depend on places. -/
theorem Scan.outline_tree (s : Scan) : outline (s.move nowhere).tree = outline s.tree := by
  have hmatch := matchSections_move nowhere s.pieces
  obtain ⟨pieces, fault⟩ := s
  simp only [Scan.tree, Scan.move, bind, Except.bind] at hmatch ⊢
  rw [hmatch]
  cases matchSections pieces with
  | error fault => exact congrArg Except.error (fault.move_move_nowhere nowhere)
  | ok opened =>
    cases fault with
    | some fault => exact congrArg Except.error (fault.move_move_nowhere nowhere)
    | none =>
      cases opened with
      | cons innermost outer => rfl
      | nil => exact congrArg Except.ok (bares_nest_squash_settle pieces)

/-- **Scans that are the same but for their places have the same outline.** -/
theorem Scan.outline_tree_congr {s s' : Scan} (h : s.move nowhere = s'.move nowhere) :
    outline s.tree = outline s'.tree := by
  rw [← s.outline_tree, h, s'.outline_tree]

/-- A text is scanned alike in every place. -/
theorem scan_move_nowhere (d : Delimiters) (position : Nat) (cs : List Char) :
    (scan d position cs).move nowhere = (scan d 0 cs).move nowhere := by
  have hshift := scan_shift position d 0 cs
  rw [Nat.zero_add] at hshift
  rw [hshift, Scan.shift_eq_move, Scan.move_move_nowhere]

@[simp] theorem Scan.move_cons (π : Nat → Nat) (piece : Piece) (s : Scan) :
    (s.cons piece).move π = (s.move π).cons (piece.move π) := rfl

@[simp] theorem Scan.move_prepend (π : Nat → Nat) (pieces : List Piece) (s : Scan) :
    (s.prepend pieces).move π = (s.move π).prepend (pieces.map (·.move π)) := by
  simp [Scan.move, Scan.prepend]

/-! ### Tags of an outline -/

mutual

/-- The marks of a tree, without places. -/
def Tree.marks : Tree → List Mark
  | .leaf l => [.leaf l ⟨0, 0⟩]
  | .block inverted name children =>
    .opening inverted name ⟨0, 0⟩ :: (marksOf children ++ [.closing name ⟨0, 0⟩])

/-- The marks of trees, as they are met from left to right, without places. -/
def marksOf : List Tree → List Mark
  | [] => []
  | tree :: trees => tree.marks ++ marksOf trees

end

theorem Unfolds.marksOf_bares {tokens : List Token} {marks : List Mark} (h : Unfolds tokens marks) :
    marksOf (bares tokens) = marks.map (·.move nowhere) := by
  induction h with
  | nil => rfl
  | leaf _ ih => simp [bares, Token.bare, marksOf, Tree.marks, ih, Mark.move]
  | block _ _ ihInside ihMore =>
    simp [bares, Token.bare, marksOf, Tree.marks, ihInside, ihMore, Mark.move]

/-- **The tags of a template can be read off its outline.** -/
theorem filter_marksOf_parse {d : Delimiters} {text : List Char} {tokens : List Token}
    (h : parse d text = .ok tokens) :
    (scan d 0 text).fault = none ∧
      (marksOf (bares tokens)).filter Mark.isTag =
        (tagsOf (scan d 0 text).pieces).map (·.move nowhere) := by
  obtain ⟨pieces, hscans, hmatch, rfl⟩ := parse_eq_ok_iff.1 h
  have htags := filter_isTag_squash_settle hscans
  have hunfolds : Unfolds (nest (squash (settle pieces))) (squash (settle pieces)) := by
    refine unfolds_nest ?_
    rwa [← foldlM_matchMark_filter, htags]
  rw [hscans.scan_eq]
  refine ⟨rfl, ?_⟩
  rw [hunfolds.marksOf_bares, ← htags, List.filter_map]
  simp [Function.comp_def]

end LiveTable.Template
