import LiveTable.Template.Token
import LiveTable.Proofs.Template.Scanning

/-!
# Trees and the marks that they unfold into

A tree of tokens, read from left to right, gives the marks of its template: a section gives its
opening tag, what its children give, and its closing tag.

* `Unfolds tokens marks`: the tokens give the marks;
* `Token.delimitersAfter`, `Token.delimitersAfterAll`: the delimiters in force behind a token, and
  behind the tokens of a tree;
* `nest_eq_of_unfolds`: the tree of the marks is the one that gives them;
* `unfolds_nest`: marks whose sections are matched are given by their tree;
* `Run.pieces`: the pieces of a run;
* `flatMap_pieces_runs`, `runs_flatMap_pieces`: pieces without gaps and runs determine each other;
* `tagsOf_flatMap_pieces`: the tags among the marks are those among the pieces;
* `parse_eq_ok_iff`: when a text is a template, and what its tree is.
-/

namespace LiveTable.Template

/-- The tokens, read from left to right, give the marks. -/
inductive Unfolds : List Token → List Mark → Prop where
  | nil : Unfolds [] []
  | leaf {leaf : Leaf} {span : Span} {tokens : List Token} {marks : List Mark}
      (more : Unfolds tokens marks) :
      Unfolds (.leaf leaf span :: tokens) (.leaf leaf span :: marks)
  | block {inverted : Bool} {name : String} {span : Span} {close stop : Nat}
      {children tokens : List Token} {inner marks : List Mark}
      (inside : Unfolds children inner) (more : Unfolds tokens marks) :
      Unfolds (.block inverted name span children close :: tokens)
        (.opening inverted name span :: (inner ++ .closing name ⟨close, stop⟩ :: marks))

/-! ### Delimiters in a tree -/

mutual

/-- The delimiters in force behind a token, `d` being in force before it. -/
def Token.delimitersAfter (d : Delimiters) : Token → Delimiters
  | .leaf (.delimiters d') _ => d'
  | .leaf _ _ => d
  | .block _ _ _ children _ => Token.delimitersAfterAll d children

/-- The delimiters in force behind the tokens, `d` being in force before them. -/
def Token.delimitersAfterAll (d : Delimiters) : List Token → Delimiters
  | [] => d
  | token :: tokens => Token.delimitersAfterAll (token.delimitersAfter d) tokens

end

theorem Token.delimitersAfter_leaf (d : Delimiters) (l : Leaf) (span : Span) :
    (Token.leaf l span).delimitersAfter d = (Mark.leaf l span).delimitersAfter d := by
  cases l <;> simp only [Token.delimitersAfter, Mark.delimitersAfter]

theorem inForce_append (d : Delimiters) (a b : List Mark) :
    inForce d (a ++ b) = inForce (inForce d a) b := List.foldl_append

/-- Behind a tree the delimiters are in force that its marks leave. -/
theorem Unfolds.delimitersAfterAll {tokens : List Token} {marks : List Mark}
    (h : Unfolds tokens marks) (d : Delimiters) :
    Token.delimitersAfterAll d tokens = inForce d marks := by
  induction h generalizing d with
  | nil => rw [Token.delimitersAfterAll, inForce_nil]
  | leaf _ ih => rw [Token.delimitersAfterAll, inForce_cons, Token.delimitersAfter_leaf, ih]
  | block _ _ ihInside ihMore =>
    rw [Token.delimitersAfterAll, Token.delimitersAfter, inForce_cons, inForce_append, inForce_cons,
      ihInside, ihMore]
    rfl

/-! ### From the tree to the marks and back -/

/-- Placing the marks of a tree puts the tree in front of the siblings. -/
theorem Unfolds.foldr_place {tokens : List Token} {marks : List Mark} (h : Unfolds tokens marks)
    (levels : Levels) :
    marks.foldr Levels.place levels = ⟨tokens ++ levels.siblings, levels.outer⟩ := by
  induction h generalizing levels with
  | nil => rfl
  | leaf _ ih => rw [List.foldr_cons, ih]; rfl
  | block _ _ ihInside ihMore =>
    rw [List.foldr_cons, List.foldr_append, List.foldr_cons, ihMore, Levels.place, ihInside,
      List.append_nil]
    rfl

/-- The tree of the marks is the one that gives them. -/
theorem nest_eq_of_unfolds {tokens : List Token} {marks : List Mark} (h : Unfolds tokens marks) :
    nest marks = tokens := by
  rw [nest, h.foldr_place, List.append_nil]

/-! ### Matching -/

/-- The sections open after one more mark, the innermost first. -/
def matchMark (opened : List OpenSection) (mark : Mark) : Except Fault (List OpenSection) :=
  matchSection opened (.tag mark)

theorem matchMark_of_text {mark : Mark} (opened : List OpenSection) (h : mark.isTag = false) :
    matchMark opened mark = .ok opened := by
  rcases mark with ⟨_ | _ | _ | _ | _ | _, _⟩ | _ | _ <;> first | rfl | cases h

/-- Only tags open and close sections. -/
theorem foldlM_matchSection (pieces : List Piece) (opened : List OpenSection) :
    pieces.foldlM matchSection opened = (tagsOf pieces).foldlM matchMark opened := by
  induction pieces generalizing opened with
  | nil => rfl
  | cons piece pieces ih =>
    cases piece with
    | char c start =>
      rw [List.foldlM_cons, tagsOf_char, ← ih]
      rfl
    | tag mark =>
      rw [List.foldlM_cons, tagsOf_tag, List.foldlM_cons]
      exact bind_congr ih

theorem foldlM_matchMark_filter (marks : List Mark) (opened : List OpenSection) :
    (marks.filter Mark.isTag).foldlM matchMark opened = marks.foldlM matchMark opened := by
  induction marks generalizing opened with
  | nil => rfl
  | cons mark marks ih =>
    cases h : mark.isTag with
    | true =>
      rw [List.filter_cons_of_pos h, List.foldlM_cons, List.foldlM_cons]
      exact bind_congr ih
    | false =>
      rw [List.filter_cons_of_neg (by simp [h]), ih, List.foldlM_cons,
        matchMark_of_text opened h]
      rfl

/-- The sections of a tree are closed. -/
theorem Unfolds.foldlM_matchMark {tokens : List Token} {marks : List Mark}
    (h : Unfolds tokens marks) (opened : List OpenSection) :
    marks.foldlM matchMark opened = .ok opened := by
  induction h generalizing opened with
  | nil => rfl
  | leaf _ ih => exact ih opened
  | @block inverted name span close stop children tokens inner marks _ _ ihInside ihMore =>
    have hopen : matchMark opened (.opening inverted name span) =
        .ok (⟨name, span⟩ :: opened) := rfl
    have hclose : matchMark (⟨name, span⟩ :: opened) (.closing name ⟨close, stop⟩) =
        .ok opened := if_pos rfl
    rw [List.foldlM_cons, hopen]
    change List.foldlM _ _ _ = _
    rw [List.foldlM_append, ihInside]
    change List.foldlM _ _ _ = _
    rw [List.foldlM_cons, hclose]
    exact ihMore opened

/-! ### Marks whose sections are matched -/

/-- The marks give the tokens of one level after the other: those of the innermost level, and for
each closing tag without its opening tag its offset and the tokens that follow it. The names are
those of the closing tags. -/
inductive UnfoldsLevels : List String → List Token → List (Nat × List Token) → List Mark → Prop
  where
  | last {tokens : List Token} {marks : List Mark} (inside : Unfolds tokens marks) :
      UnfoldsLevels [] tokens [] marks
  | level {name : String} {names : List String} {close stop : Nat} {tokens after : List Token}
      {outer : List (Nat × List Token)} {inner marks : List Mark}
      (inside : Unfolds tokens inner) (more : UnfoldsLevels names after outer marks) :
      UnfoldsLevels (name :: names) tokens ((close, after) :: outer)
        (inner ++ .closing name ⟨close, stop⟩ :: marks)

/-- What can stand in front of the marks of a tree can stand in front of the innermost level. -/
theorem UnfoldsLevels.cons {names : List String} {token : Token} {tokens : List Token}
    {outer : List (Nat × List Token)} {front marks : List Mark}
    (h : UnfoldsLevels names tokens outer marks)
    (hfront : ∀ {tokens : List Token} {marks : List Mark}, Unfolds tokens marks →
      Unfolds (token :: tokens) (front ++ marks)) :
    UnfoldsLevels names (token :: tokens) outer (front ++ marks) := by
  cases h with
  | last inside => exact .last (hfront inside)
  | level inside more =>
    rw [← List.append_assoc]
    exact .level (hfront inside) more

/-- An opening tag takes the innermost level for its children. -/
theorem UnfoldsLevels.place_opening {name : String} {names : List String} {levels : Levels}
    {marks : List Mark} (h : UnfoldsLevels (name :: names) levels.siblings levels.outer marks)
    (inverted : Bool) (span : Span) :
    UnfoldsLevels names (levels.place (.opening inverted name span)).siblings
      (levels.place (.opening inverted name span)).outer
      (.opening inverted name span :: marks) := by
  obtain ⟨siblings, outer⟩ := levels
  cases h with
  | @level _ _ close stop _ after outer inner marks inside more =>
    have hfront : UnfoldsLevels names (.block inverted name span siblings close :: after) outer
        ((.opening inverted name span :: (inner ++ [.closing name ⟨close, stop⟩])) ++ marks) :=
      more.cons fun h => by simpa using Unfolds.block inside h
    simpa [Levels.place] using hfront

/-- A closing tag closes the innermost section, which has its name. -/
theorem exists_of_foldlM_closing {name : String} {span : Span} {marks : List Mark}
    {opened : List OpenSection}
    (h : (Mark.closing name span :: marks).foldlM matchMark opened = .ok []) :
    ∃ innermost outer, opened = innermost :: outer ∧ innermost.name = name ∧
      marks.foldlM matchMark outer = .ok [] := by
  rw [List.foldlM_cons] at h
  cases opened with
  | nil => cases h
  | cons innermost outer =>
    by_cases hname : innermost.name = name
    · have hstep : matchMark (innermost :: outer) (.closing name span) = .ok outer :=
        if_pos hname
      rw [hstep] at h
      exact ⟨innermost, outer, rfl, hname, h⟩
    · have hstep : matchMark (innermost :: outer) (.closing name span) =
          .error (.unmatchedSection name (some innermost.name) span) := if_neg hname
      rw [hstep] at h
      cases h

/-- The levels of marks are as many as the sections that they close. -/
theorem unfoldsLevels_of_match {marks : List Mark} {opened : List OpenSection}
    (h : marks.foldlM matchMark opened = .ok []) :
    UnfoldsLevels (opened.map OpenSection.name) (marks.foldr Levels.place ⟨[], []⟩).siblings
      (marks.foldr Levels.place ⟨[], []⟩).outer marks := by
  -- from the right: the levels of the rest are there when a mark is put in front of them
  induction marks generalizing opened with
  | nil =>
    cases h
    exact .last .nil
  | cons mark marks ih =>
    rw [List.foldr_cons]
    cases mark with
    | leaf leaf span =>
      have hfront : UnfoldsLevels _ _ _ ([.leaf leaf span] ++ marks) := (ih h).cons .leaf
      exact hfront
    | opening inverted name span =>
      have hopen : marks.foldlM matchMark (⟨name, span⟩ :: opened) = .ok [] := h
      exact (ih hopen).place_opening inverted span
    | closing name span =>
      obtain ⟨innermost, outer, rfl, rfl, hmore⟩ := exists_of_foldlM_closing h
      exact .level .nil (ih hmore)

/-- **Marks whose sections are matched are given by their tree.** -/
theorem unfolds_nest {marks : List Mark} (h : marks.foldlM matchMark [] = .ok []) :
    Unfolds (nest marks) marks := by
  have hlevels := unfoldsLevels_of_match h
  generalize hl : marks.foldr Levels.place ⟨[], []⟩ = levels at hlevels
  obtain ⟨siblings, outer⟩ := levels
  rw [nest, hl]
  cases hlevels with
  | last inside => exact inside

/-! ### Runs -/

/-- Characters side by side, the first one at `start`. -/
def spread (start : Nat) : List Char → List Piece
  | [] => []
  | c :: cs => .char c start :: spread (start + c.utf8Size) cs

@[simp] theorem tagsOf_spread (start : Nat) (cs : List Char) : tagsOf (spread start cs) = [] := by
  induction cs generalizing start with
  | nil => rfl
  | cons c cs ih => exact ih (start + c.utf8Size)

namespace Run

/-- The run is a text. -/
def isText : Run → Bool
  | text _ _ => true
  | tag _ => false

/-- The pieces of a run. -/
def pieces : Run → List Piece
  | text cs start => spread start cs
  | tag mark => [.tag mark]

end Run

/-- A character that is followed by a character is followed by the one at its end. -/
def Glued (pieces : List Piece) : Prop :=
  pieces.IsChain fun x y => x.isTag = true ∨ y.isTag = true ∨ x.span.stop = y.span.start

theorem Tiles.start_of_head? {a b : Nat} {pieces : List Piece} (h : Tiles a pieces b) :
    ∀ y ∈ pieces.head?, y.span.start = a := by
  cases h with
  | nil => exact nofun
  | cons _ _ =>
    intro y hy
    cases hy
    rfl

theorem Tiles.glued {a b : Nat} {pieces : List Piece} (h : Tiles a pieces b) : Glued pieces := by
  induction h with
  | nil => exact .nil
  | cons _ rest ih => exact ih.cons fun y hy => .inr (.inr (rest.start_of_head? y hy).symm)

/-- Runs as they are read: no text is empty, and no text follows a text. -/
structure Apart (rs : List Run) : Prop where
  ne_nil : ∀ cs start, .text cs start ∈ rs → cs ≠ []
  isChain : rs.IsChain fun x y => x.isText = false ∨ y.isText = false

namespace Apart

theorem nil : Apart [] := ⟨nofun, .nil⟩

theorem tag_cons {rs : List Run} {mark : Mark} (h : Apart rs) : Apart (.tag mark :: rs) where
  ne_nil cs start hr := h.ne_nil cs start (by simpa using hr)
  isChain := h.isChain.cons fun _ _ => .inl rfl

theorem text_cons {rs : List Run} {cs : List Char} {start : Nat} (h : Apart rs) (hcs : cs ≠ [])
    (hhead : ∀ run ∈ rs.head?, run.isText = false) : Apart (.text cs start :: rs) where
  ne_nil cs' start' hr := by
    rcases List.mem_cons.1 hr with hr | hr
    · cases hr
      exact hcs
    · exact h.ne_nil cs' start' hr
  isChain := h.isChain.cons fun run hrun => .inr (hhead run hrun)

theorem tail {run : Run} {rs : List Run} (h : Apart (run :: rs)) : Apart rs where
  ne_nil cs start hr := h.ne_nil cs start (List.mem_cons_of_mem _ hr)
  isChain := (List.isChain_cons.1 h.isChain).2

theorem of_append_left {front back : List Run} (h : Apart (front ++ back)) : Apart front where
  ne_nil cs start hr := h.ne_nil cs start (List.mem_append_left _ hr)
  isChain := (List.isChain_append.1 h.isChain).1

theorem of_append_right {front back : List Run} (h : Apart (front ++ back)) : Apart back where
  ne_nil cs start hr := h.ne_nil cs start (List.mem_append_right _ hr)
  isChain := (List.isChain_append.1 h.isChain).2.1

/-- No text follows a text. -/
theorem isText_head? {cs : List Char} {start : Nat} {rs : List Run}
    (h : Apart (.text cs start :: rs)) : ∀ run ∈ rs.head?, run.isText = false :=
  fun run hrun => ((List.isChain_cons.1 h.isChain).1 run hrun).resolve_left nofun

/-- A tag keeps runs apart. -/
theorem append_tag {front back : List Run} {mark : Mark} (hfront : Apart front)
    (hback : Apart back) : Apart (front ++ .tag mark :: back) where
  ne_nil cs start hr := by
    rcases List.mem_append.1 hr with hr | hr
    · exact hfront.ne_nil cs start hr
    · exact hback.tag_cons.ne_nil cs start hr
  isChain := List.isChain_append.2 ⟨hfront.isChain, hback.tag_cons.isChain, fun _ _ y hy => by
    cases hy
    exact .inr rfl⟩

end Apart

/-- The runs of pieces are apart. -/
theorem apart_runs (pieces : List Piece) : Apart (runs pieces) := by
  induction pieces with
  | nil => exact .nil
  | cons piece pieces ih =>
    cases piece with
    | tag mark => exact ih.tag_cons
    | char c start =>
      rw [runs]
      split
      · rename_i cs next more hruns
        rw [hruns] at ih
        exact ih.tail.text_cons (List.cons_ne_nil _ _) ih.isText_head?
      · rename_i htag
        refine ih.text_cons (List.cons_ne_nil _ _) fun run hrun => ?_
        cases run with
        | tag mark => rfl
        | text cs next =>
          obtain ⟨more, hmore⟩ := List.head?_eq_some_iff.1 hrun
          exact absurd hmore (htag cs next more)

/-- Of pieces without gaps every one is in its run. -/
theorem flatMap_pieces_runs {pieces : List Piece} (h : Glued pieces) :
    (runs pieces).flatMap Run.pieces = pieces := by
  induction pieces with
  | nil => rfl
  | cons piece pieces ih =>
    have ih := ih (List.isChain_cons.1 h).2
    cases piece with
    | tag mark => rw [runs, List.flatMap_cons, ih]; rfl
    | char c start =>
      have hapart := apart_runs pieces
      rw [runs]
      split
      · -- the next run starts where the character ends
        rename_i cs next more hruns
        rw [hruns] at ih hapart
        obtain ⟨c', cs', rfl⟩ := List.exists_cons_of_ne_nil (hapart.ne_nil cs next (by simp))
        have hnext : start + c.utf8Size = next := by
          have hglued := (List.isChain_cons.1 h).1
          rw [← ih] at hglued
          simpa [Run.pieces, spread, Piece.isTag, Piece.span] using hglued
        rw [← ih, ← hnext]
        rfl
      · rw [List.flatMap_cons, ih]
        rfl

/-- Characters side by side are one run, unless a character follows them. -/
theorem runs_spread_append {cs : List Char} (start : Nat) {pieces : List Piece} (hcs : cs ≠ [])
    (h : ∀ run ∈ (runs pieces).head?, run.isText = false) :
    runs (spread start cs ++ pieces) = .text cs start :: runs pieces := by
  induction cs generalizing start with
  | nil => exact absurd rfl hcs
  | cons c cs ih =>
    cases cs with
    | nil =>
      change runs (.char c start :: pieces) = _
      rw [runs]
      split
      · rename_i cs next more hruns
        rw [hruns] at h
        cases h _ rfl
      · rfl
    | cons c' cs =>
      have ih := ih (start + c.utf8Size) (List.cons_ne_nil _ _)
      rw [spread, List.cons_append, runs, ih]

/-- Runs that are apart are those of their pieces. -/
theorem runs_flatMap_pieces {rs : List Run} (h : Apart rs) :
    runs (rs.flatMap Run.pieces) = rs := by
  induction rs with
  | nil => rfl
  | cons run rs ih =>
    have ih := ih h.tail
    rw [List.flatMap_cons]
    cases run with
    | tag mark =>
      rw [Run.pieces, List.singleton_append, runs, ih]
    | text cs start =>
      have hcs : cs ≠ [] := h.ne_nil cs start List.mem_cons_self
      rw [Run.pieces, runs_spread_append start hcs, ih]
      intro y hy
      rw [ih] at hy
      exact h.isText_head? y hy

/-- The tags among the marks of runs are those among their pieces. -/
theorem tagsOf_flatMap_pieces {rs : List Run} (h : ∀ mark, .tag mark ∈ rs → mark.isTag = true) :
    tagsOf (rs.flatMap Run.pieces) = (rs.map Run.mark).filter Mark.isTag := by
  induction rs with
  | nil => rfl
  | cons run rs ih =>
    have ih := ih fun mark hm => h mark (List.mem_cons_of_mem _ hm)
    rw [List.flatMap_cons, tagsOf_append, List.map_cons, ih]
    cases run with
    | tag mark =>
      have hmark : (Run.tag mark).mark.isTag = true := h mark List.mem_cons_self
      rw [List.filter_cons_of_pos hmark]
      rfl
    | text cs start =>
      have htext : ¬ (Run.text cs start).mark.isTag = true := nofun
      rw [List.filter_cons_of_neg htext, Run.pieces, tagsOf_spread, List.nil_append]

/-! ### Parsing -/

/-- A text is a template if it scans and its sections are matched; its tree is that of the marks
that are left when its lines are settled. -/
theorem parse_eq_ok_iff {d : Delimiters} {text : List Char} {tokens : List Token} :
    parse d text = .ok tokens ↔
      ∃ pieces, Scans d 0 text pieces ∧ (tagsOf pieces).foldlM matchMark [] = .ok [] ∧
        nest (squash (settle pieces)) = tokens := by
  rw [parse, matchSections, foldlM_matchSection]
  constructor
  · intro h
    cases hopened : (tagsOf (scan d 0 text).pieces).foldlM matchMark [] with
    | error fault =>
      rw [hopened] at h
      cases h
    | ok opened =>
      simp only [hopened, bind, Except.bind] at h
      split at h
      · cases h
      · cases h
      · rename_i hfault
        cases h
        exact ⟨_, scans_of_scan d 0 text hfault, hopened, rfl⟩
  · rintro ⟨pieces, hscans, hopened, rfl⟩
    simp only [hscans.scan_eq, hopened, bind, Except.bind]
    rfl

end LiveTable.Template
