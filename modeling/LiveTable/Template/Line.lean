import LiveTable.Template.Piece

/-!
# Lines that hold only tags

A line that ends in a line break and holds nothing but blanks and tags that write no value leaves
no trace: its blanks and its line break are dropped.

* `standalone line`: the line leaves no trace;
* `settleLine line`: a whole line without what it drops;
* `settle pieces`: the same for every line of a template. The last line, which no line break ends,
  is kept as it is.
-/

namespace LiveTable.Template

/-- The piece may stand in a line that leaves no trace. -/
def Piece.isUnobtrusive : Piece → Bool
  | char c _ => Text.isBlank c
  | tag mark => !mark.isValue

/-- The line holds a tag, and nothing but blanks and tags that write no value. -/
def standalone (line : List Piece) : Bool := line.any Piece.isTag && line.all Piece.isUnobtrusive

/-- A whole line without what it drops. -/
def settleLine (line : List Piece) : List Piece :=
  if standalone line then line.filter Piece.isTag else line

/-- The pieces without what their lines drop, where `line` holds the pieces of the current line so
far, the last one first. -/
def settleFrom (line : List Piece) : List Piece → List Piece
  | [] => line.reverse
  | piece :: pieces =>
    if piece.isLineBreak then settleLine (piece :: line).reverse ++ settleFrom [] pieces
    else settleFrom (piece :: line) pieces

/-- The pieces without what their lines drop. -/
def settle (pieces : List Piece) : List Piece := settleFrom [] pieces

end LiveTable.Template
