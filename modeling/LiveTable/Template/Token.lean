import LiveTable.Template.Line

/-!
# Tokens

A template is a tree: leaves, and sections with the tokens inside them.

* `Token`: a node of the tree;
* `matchSections`: the sections that a list of pieces leaves open, unless a closing tag is at fault;
* `squash`: marks from pieces, neighbouring characters being one text;
* `nest`: the tree of a list of marks;
* `parse d text`: the tree of a text with the delimiters `d` in force at its start;
* `givenDelimiters`, `parseGiven`: the same for delimiters that are given as texts.
-/

namespace LiveTable.Template

/-- A part of a template with its place. A section holds the tokens inside it and the offset of
its closing tag. -/
inductive Token where
  | leaf (leaf : Leaf) (span : Span)
  | block (inverted : Bool) (name : String) (span : Span) (children : List Token) (close : Nat)

namespace Token

/-- The place of a token; of a section, that of its opening tag. -/
def span : Token → Span
  | leaf _ span => span
  | block _ _ span _ _ => span

/-- The text between the tags of a section. -/
def sectionText? (source : List Char) : Token → Option (List Char)
  | leaf _ _ => none
  | block _ _ span _ close => Text.slice? ⟨span.stop, close⟩ source

end Token

/-- An opening tag whose section is still open. -/
structure OpenSection where
  name : String
  span : Span
  deriving DecidableEq

/-- The sections open after one more piece, the innermost first. A closing tag has to name the
innermost one. -/
def matchSection (opened : List OpenSection) : Piece → Except Fault (List OpenSection)
  | .tag (.opening _ name span) => .ok (⟨name, span⟩ :: opened)
  | .tag (.closing name span) =>
    match opened with
    | [] => .error (.unmatchedSection name none span)
    | innermost :: outer =>
      if innermost.name = name then .ok outer
      else .error (.unmatchedSection name (some innermost.name) span)
  | _ => .ok opened

/-- The sections that the pieces leave open, the innermost first. -/
def matchSections (pieces : List Piece) : Except Fault (List OpenSection) :=
  pieces.foldlM matchSection []

/-- A run of characters or a tag. -/
inductive Run where
  | text (cs : List Char) (start : Nat)
  | tag (mark : Mark)

/-- The mark of a run. -/
def Run.mark : Run → Mark
  | text cs start => .leaf (.text (String.ofList cs)) ⟨start, start + Text.byteSize cs⟩
  | tag mark => mark

/-- The runs of a list of pieces: neighbouring characters belong to one run. -/
def runs : List Piece → List Run
  | [] => []
  | .tag mark :: pieces => .tag mark :: runs pieces
  | .char c start :: pieces =>
    match runs pieces with
    | .text cs _ :: more => .text (c :: cs) start :: more
    | more => .text [c] start :: more

/-- The marks of a list of pieces. -/
def squash (pieces : List Piece) : List Mark := (runs pieces).map Run.mark

/-- The tokens to the right of a place, level by level: those that follow at its own level, and
for each closing tag without its opening tag its offset and the tokens that follow it. -/
structure Levels where
  siblings : List Token
  outer : List (Nat × List Token)

/-- The levels with one more mark in front. -/
def Levels.place (mark : Mark) (levels : Levels) : Levels :=
  match mark with
  | .leaf leaf span => { levels with siblings := .leaf leaf span :: levels.siblings }
  | .closing _ span => ⟨[], (span.start, levels.siblings) :: levels.outer⟩
  | .opening inverted name span =>
    match levels.outer with
    | (close, after) :: outer =>
      ⟨.block inverted name span levels.siblings close :: after, outer⟩
    | [] => ⟨[.block inverted name span levels.siblings span.stop], []⟩

/-- The tree of a list of marks in which every section is closed. -/
def nest (marks : List Mark) : List Token := (marks.foldr Levels.place ⟨[], []⟩).siblings

/-- The tree of a text with the delimiters `d` in force at its start. Of several faults the first
in the text counts; an open section is a fault at the end. -/
def parse (d : Delimiters) (text : List Char) : Except Fault (List Token) := do
  let scanned := scan d 0 text
  let opened ← matchSections scanned.pieces
  match scanned.fault, opened with
  | some fault, _ => throw fault
  | none, innermost :: _ => throw (.unclosedSection innermost.name innermost.span)
  | none, [] => pure (nest (squash (settle scanned.pieces)))

/-- The delimiters given as two texts; it is a fault outside any template if they are none. -/
def givenDelimiters (opening closing : String) : Except Fault Delimiters :=
  match Delimiters.of? opening closing with
  | some d => .ok d
  | none => .error (.malformedDelimiters (opening ++ " " ++ closing) none)

/-- The tree of a text whose first delimiters are given as texts. -/
def parseGiven (opening closing : String) (text : List Char) : Except Fault (List Token) := do
  parse (← givenDelimiters opening closing) text

end LiveTable.Template
