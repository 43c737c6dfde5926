import LiveTable.Template.Mark

/-!
# Pieces

The finest division of a template: single characters between tags, and whole tags.

* `Piece`: a character or a tag, with its place;
* `Scan`: the pieces up to the first fault, and that fault;
* `scan d position cs`: the pieces of a text that starts at `position` with the delimiters `d` in
  force.
-/

namespace LiveTable.Template

/-- A character outside tags, or a tag. -/
inductive Piece where
  | char (c : Char) (start : Nat)
  | tag (mark : Mark)
  deriving DecidableEq

namespace Piece

/-- The piece is a tag. -/
def isTag : Piece → Bool
  | char _ _ => false
  | tag _ => true

/-- The piece is a line break outside tags. -/
def isLineBreak : Piece → Bool
  | char c _ => c == '\n'
  | tag _ => false

end Piece

/-- The pieces of a text up to its first fault, if it has one. -/
structure Scan where
  pieces : List Piece
  fault : Option Fault

/-- The scan with one more piece in front. -/
def Scan.cons (piece : Piece) (s : Scan) : Scan := { s with pieces := piece :: s.pieces }

/-- The pieces of a text that starts at `position` with the delimiters `d` in force. A tag starts
wherever the opening delimiter in force occurs. -/
def scan (d : Delimiters) (position : Nat) (cs : List Char) : Scan :=
  match cs with
  | [] => ⟨[], none⟩
  | c :: cs =>
    match _found : d.opening.toList.isPrefixOf? (c :: cs) with
    | none => (scan d (position + c.utf8Size) cs).cons (.char c position)
    | some inside =>
      let start := position + Text.byteSize d.opening.toList
      match _closed : Tag.take? d inside with
      | none =>
        ⟨[], some (.unclosedTag (start + Text.byteSize inside) d.closing ⟨position, start⟩)⟩
      | some t =>
        let stop := start + Text.byteSize t.written
        match Mark.ofTag t ⟨position, stop⟩ with
        | .error fault => ⟨[], some fault⟩
        | .ok mark => (scan (mark.delimitersAfter d) stop t.rest).cons (.tag mark)
termination_by cs.length
decreasing_by
  · simp
  · have e := congrArg List.length (append_of_isPrefixOf? _found)
    have l := Tag.rest_length_le _closed
    have n := List.length_pos_iff.mpr d.opening_ne_nil
    simp only [List.length_append] at e
    simp only [List.length_cons] at e ⊢
    omega

end LiveTable.Template
