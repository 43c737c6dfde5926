import LiveTable.Proofs.Template.Framing
import LiveTable.Proofs.Template.Layout
import LiveTable.Proofs.Template.Shifting

/-!
# Templates one after the other

A template that is whole lines can be parsed apart from what follows it: no tag, no line and no
section of it depends on more text, and nothing but the delimiters in force is left behind.

* `settle_append`: lines are settled apart;
* `runs_append`: where a text meets a text the two are one run;
* `nest_append`: matched sections are a tree of their own;
* `coalesce tokens`: neighbouring texts made one;
* `nest_squash_eq_coalesce`: that is how characters become texts;
* `nest_squash_append`: the tree of two lists of pieces one after the other;
* `parse_append_of_lineEnd`: templates compose at line ends.
-/

namespace LiveTable.Template

/-! ### Lines -/

theorem settleFrom_append {line a : List Piece} (b : List Piece)
    (hline : a = [] → line = []) (ha : ∀ x ∈ a.getLast?, x.isLineBreak = true) :
    settleFrom line (a ++ b) = settleFrom line a ++ settle b := by
  induction a generalizing line with
  | nil =>
    rw [hline rfl]
    rfl
  | cons x a ih =>
    rw [List.cons_append, settleFrom, settleFrom]
    have hlast : ∀ y ∈ a.getLast?, y.isLineBreak = true :=
      @forall_getLast?_of_append _ _ [x] a ha
    split
    · rw [ih (fun _ => rfl) hlast, List.append_assoc]
    · rename_i hx
      refine ih (fun ha' => ?_) hlast
      rw [ha'] at ha
      exact absurd (ha x rfl) hx

/-- What follows a line break is settled on its own. -/
theorem settle_append {a : List Piece} (ha : ∀ x ∈ a.getLast?, x.isLineBreak = true)
    (b : List Piece) : settle (a ++ b) = settle a ++ settle b :=
  settleFrom_append b (fun _ => rfl) ha

/-! ### Runs -/

theorem spread_append (start : Nat) (a b : List Char) :
    spread start (a ++ b) = spread start a ++ spread (start + Text.byteSize a) b := by
  induction a generalizing start with
  | nil => rfl
  | cons c a ih => rw [List.cons_append, spread, ih, spread, Text.byteSize_cons, Nat.add_assoc,
      List.cons_append]

/-- Runs are apart if no text follows a text where they meet. -/
theorem Apart.append {front back : List Run} (hfront : Apart front) (hback : Apart back)
    (h : ∀ x ∈ front.getLast?, ∀ y ∈ back.head?, x.isText = false ∨ y.isText = false) :
    Apart (front ++ back) where
  ne_nil cs start hr := (List.mem_append.1 hr).elim (hfront.ne_nil cs start) (hback.ne_nil cs start)
  isChain := List.isChain_append.2 ⟨hfront.isChain, hback.isChain, h⟩

/-- **The runs of two lists of pieces**: where a text meets a text they become one. -/
theorem runs_append {a b : List Piece} (h : Glued (a ++ b)) :
    runs (a ++ b) = runs a ++ runs b ∨
      ∃ front cs start cs' back, runs a = front ++ [.text cs start] ∧
        runs b = .text cs' (start + Text.byteSize cs) :: back ∧
        runs (a ++ b) = front ++ .text (cs ++ cs') start :: back := by
  obtain ⟨hglueda, hgluedb, hmeet⟩ := List.isChain_append.1 h
  have hpieces := flatMap_pieces_runs hglueda
  have hpieces' := flatMap_pieces_runs hgluedb
  by_cases hapart : ∀ x ∈ (runs a).getLast?, ∀ y ∈ (runs b).head?, x.isText = false ∨ y.isText = false
  · have hruns := runs_flatMap_pieces ((apart_runs a).append (apart_runs b) hapart)
    rw [List.flatMap_append, hpieces, hpieces'] at hruns
    exact .inl hruns
  · push Not at hapart
    obtain ⟨x, hx, y, hy, hxtext, hytext⟩ := hapart
    obtain ⟨front, hfront⟩ := List.getLast?_eq_some_iff.1 hx
    obtain ⟨back, hback⟩ := List.head?_eq_some_iff.1 hy
    rcases x with ⟨cs, start⟩ | mark
    swap
    · exact absurd rfl hxtext
    rcases y with ⟨cs', next⟩ | mark
    swap
    · exact absurd rfl hytext
    rw [hfront, List.flatMap_append, List.flatMap_singleton] at hpieces
    rw [hback, List.flatMap_cons] at hpieces'
    have haparta := apart_runs a
    have hapartb := apart_runs b
    rw [hfront] at haparta
    rw [hback] at hapartb
    have hcs : cs ≠ [] := haparta.ne_nil cs start (by simp)
    have hcs' : cs' ≠ [] := hapartb.ne_nil cs' next (by simp)
    -- the first text ends where the second one starts
    obtain rfl : next = start + Text.byteSize cs := by
      obtain ⟨init, c, rfl⟩ := (List.eq_nil_or_concat' cs).resolve_left hcs
      obtain ⟨c', more, rfl⟩ := List.exists_cons_of_ne_nil hcs'
      have hlast : .char c (start + Text.byteSize init) ∈ a.getLast? := by
        rw [← hpieces, Run.pieces, spread_append, ← List.append_assoc]
        simp [spread]
      have hhead : .char c' next ∈ b.head? := by
        rw [← hpieces', Run.pieces]
        rfl
      have hglued := hmeet _ hlast _ hhead
      simp only [Piece.isTag, Bool.false_eq_true, false_or, Piece.span_char] at hglued
      rw [← hglued, Text.byteSize_append, Text.byteSize_cons, Text.byteSize_nil, Nat.add_zero,
        Nat.add_assoc]
    have hfrontLast : ∀ x ∈ front.getLast?, x.isText = false := fun x hx =>
      ((List.isChain_append.1 haparta.isChain).2.2 x hx _ rfl).resolve_right Bool.noConfusion
    have hjoined : Apart (front ++ .text (cs ++ cs') start :: back) :=
      haparta.of_append_left.append
        (hapartb.tail.text_cons (by simp [hcs]) hapartb.isText_head?)
        fun x hx _ _ => .inl (hfrontLast x hx)
    refine .inr ⟨front, cs, start, cs', back, hfront, hback, ?_⟩
    rw [← runs_flatMap_pieces hjoined, List.flatMap_append, List.flatMap_cons, Run.pieces,
      spread_append, ← hpieces, ← hpieces', Run.pieces, Run.pieces]
    simp only [List.append_assoc]

/-! ### Trees -/

/-- Marks whose sections are matched grow into a tree of their own, whatever follows them. -/
theorem nest_append {a : List Mark} (ha : a.foldlM matchMark [] = .ok []) (b : List Mark) :
    nest (a ++ b) = nest a ++ nest b := by
  rw [nest, List.foldr_append, (unfolds_nest ha).foldr_place]
  rfl

/-- Neighbouring texts become one. -/
def coalesce : List Token → List Token
  | [] => []
  | .leaf (.text s) span :: tokens =>
    match coalesce tokens with
    | .leaf (.text s') span' :: more =>
      .leaf (.text (s ++ s')) ⟨span.start, span'.stop⟩ :: more
    | more => .leaf (.text s) span :: more
  | token :: tokens => token :: coalesce tokens

namespace Token

/-- The token is a text. -/
def isText : Token → Bool
  | leaf (.text _) _ => true
  | _ => false

end Token

/-- Where no text follows a text there is nothing to do. -/
theorem coalesce_of_apart {tokens : List Token}
    (h : tokens.IsChain fun x y => x.isText = false ∨ y.isText = false) :
    coalesce tokens = tokens := by
  fun_induction coalesce tokens with
  | case1 => rfl
  | case2 span s tokens s' span' more hmore ih =>
    obtain ⟨hhead, htail⟩ := List.isChain_cons.1 h
    have hsame := ih htail
    rw [hmore] at hsame
    rw [← hsame] at hhead
    rcases hhead _ rfl with htext | htext <;> cases htext
  | case3 span s tokens hmore ih => rw [ih (List.isChain_cons.1 h).2]
  | case4 token tokens htoken ih => rw [ih (List.isChain_cons.1 h).2]

/-- The mark that a piece alone gives. -/
def Piece.mark : Piece → Mark
  | char c start => .leaf (.text (String.ofList [c])) ⟨start, start + c.utf8Size⟩
  | tag mark => mark

/-- Outside sections, the marks of pieces are those of the single pieces, texts that meet being
joined. -/
theorem nest_squash_eq_coalesce {pieces : List Piece} (hglued : Glued pieces)
    (htags : ∀ mark, .tag mark ∈ pieces → mark.isTag = true ∧ ∃ l span, mark = .leaf l span) :
    nest (squash pieces) = coalesce (nest (pieces.map Piece.mark)) := by
  induction pieces with
  | nil => rfl
  | cons piece pieces ih =>
    obtain ⟨hhead, htail⟩ := List.isChain_cons.1 hglued
    have ih := ih htail fun mark hm => htags mark (List.mem_cons_of_mem _ hm)
    cases piece with
    | tag mark =>
      obtain ⟨htag, l, span, rfl⟩ := htags mark List.mem_cons_self
      have hnest : nest (squash (.tag (.leaf l span) :: pieces)) =
          .leaf l span :: nest (squash pieces) := rfl
      have hnest' : nest ((Piece.tag (.leaf l span) :: pieces).map Piece.mark) =
          .leaf l span :: nest (pieces.map Piece.mark) := rfl
      rw [hnest, hnest', ih]
      cases l <;> first | rfl | cases htag
    | char c start =>
      have hnest' : nest ((Piece.char c start :: pieces).map Piece.mark) =
          .leaf (.text (String.ofList [c])) ⟨start, start + c.utf8Size⟩ ::
            nest (pieces.map Piece.mark) := rfl
      have hpieces := flatMap_pieces_runs htail
      rw [hnest', coalesce, ← ih, squash, squash, runs]
      rcases hruns : runs pieces with _ | ⟨⟨cs, next⟩ | mark, more⟩
      · rfl
      · rw [hruns, List.flatMap_cons] at hpieces
        obtain ⟨c', cs', rfl⟩ := List.exists_cons_of_ne_nil
          ((hruns ▸ apart_runs pieces).ne_nil cs next List.mem_cons_self)
        obtain rfl : next = start + c.utf8Size := by
          have hnext := hhead (.char c' next) (by rw [← hpieces]; rfl)
          simpa [Piece.isTag, eq_comm] using hnext
        simp [nest, Levels.place, Run.mark, Nat.add_assoc]
      · have hmem : .tag mark ∈ pieces := by
          rw [← hpieces, hruns]
          simp [Run.pieces]
        obtain ⟨htag, l, span, rfl⟩ := htags mark (List.mem_cons_of_mem _ hmem)
        cases l <;> first | rfl | cases htag

theorem coalesce_cons_congr (token : Token) {tokens tokens' : List Token}
    (h : coalesce tokens = coalesce tokens') :
    coalesce (token :: tokens) = coalesce (token :: tokens') := by
  rcases token with ⟨_ | _ | _ | _ | _ | _, _⟩ | _ <;> simp only [coalesce, h]

/-- Two texts may be made one before their neighbours are looked at. -/
theorem coalesce_append_text (front : List Token) (s s' : String) (span span' : Span)
    (back : List Token) :
    coalesce (front ++ .leaf (.text s) span :: .leaf (.text s') span' :: back) =
      coalesce (front ++ .leaf (.text (s ++ s')) ⟨span.start, span'.stop⟩ :: back) := by
  induction front with
  | nil =>
    simp only [List.nil_append, coalesce]
    generalize coalesce back = tokens
    rcases tokens with _ | ⟨⟨_ | _ | _ | _ | _ | _, _⟩ | _, _⟩ <;> simp [String.append_assoc]
  | cons token front ih => exact coalesce_cons_congr token ih

theorem Token.isText_leaf (l : Leaf) (span : Span) :
    (Token.leaf l span).isText = !(Mark.leaf l span).isTag := by
  cases l <;> rfl

/-- The tree of marks starts with a text only if the marks do. -/
theorem Unfolds.isText_head? {tokens : List Token} {marks : List Mark} (h : Unfolds tokens marks)
    {token : Token} (htoken : token ∈ tokens.head?) :
    ∃ mark ∈ marks.head?, token.isText = !mark.isTag := by
  cases h with
  | nil => cases htoken
  | leaf _ =>
    cases htoken
    exact ⟨_, rfl, Token.isText_leaf _ _⟩
  | block _ _ =>
    cases htoken
    exact ⟨_, rfl, rfl⟩

/-- No text follows a text in the tree of marks in which none does. -/
theorem Unfolds.isChain {tokens : List Token} {marks : List Mark} (h : Unfolds tokens marks)
    (hmarks : marks.IsChain fun x y => x.isTag = true ∨ y.isTag = true) :
    tokens.IsChain fun x y => x.isText = false ∨ y.isText = false := by
  induction h with
  | nil => exact .nil
  | @leaf l span tokens marks more ih =>
    obtain ⟨hhead, htail⟩ := List.isChain_cons.1 hmarks
    refine (ih htail).cons fun token htoken => ?_
    obtain ⟨mark, hmark, htext⟩ := more.isText_head? htoken
    rw [Token.isText_leaf, htext, Bool.not_eq_false', Bool.not_eq_false']
    exact hhead mark hmark
  | @block inverted name span close stop children tokens inner marks inside more _ ihMore =>
    have htail := (List.isChain_append.1 (List.isChain_cons.1 hmarks).2).2.1
    exact (ihMore (List.isChain_cons.1 htail).2).cons fun _ _ => .inl rfl

/-- A text at the end opens and closes no section. -/
theorem foldlM_matchMark_of_append_leaf {marks : List Mark} {l : Leaf} {span : Span}
    (h : (marks ++ [Mark.leaf l span]).foldlM matchMark [] = .ok []) :
    marks.foldlM matchMark [] = .ok [] := by
  rw [List.foldlM_append] at h
  cases hmarks : marks.foldlM matchMark [] with
  | error fault =>
    rw [hmarks] at h
    cases h
  | ok opened =>
    rw [hmarks] at h
    cases h
    rfl

/-- **The tree of two lists of pieces one after the other**: that of the first and that of the
second, where a text meets a text joined. -/
theorem nest_squash_append {a b : List Piece} (h : Glued (a ++ b))
    (ha : (squash a).foldlM matchMark [] = .ok [])
    (hchain : (nest (squash (a ++ b))).IsChain fun x y => x.isText = false ∨ y.isText = false) :
    nest (squash (a ++ b)) = coalesce (nest (squash a) ++ nest (squash b)) := by
  rcases runs_append h with hruns | ⟨front, cs, start, cs', back, hfront, hback, hruns⟩
  · have hnest : nest (squash (a ++ b)) = nest (squash a) ++ nest (squash b) := by
      rw [squash, hruns, List.map_append]
      exact nest_append ha _
    rw [hnest] at hchain ⊢
    rw [coalesce_of_apart hchain]
  · rw [squash, hfront, List.map_append, List.map_singleton] at ha
    have hmatch := foldlM_matchMark_of_append_leaf ha
    have hnest : nest (squash (a ++ b)) = nest (front.map Run.mark) ++
        .leaf (.text (String.ofList (cs ++ cs')))
          ⟨start, start + Text.byteSize (cs ++ cs')⟩ :: nest (back.map Run.mark) := by
      rw [squash, hruns, List.map_append, nest_append hmatch]
      rfl
    have hnesta : nest (squash a) = nest (front.map Run.mark) ++
        [.leaf (.text (String.ofList cs)) ⟨start, start + Text.byteSize cs⟩] := by
      rw [squash, hfront, List.map_append, nest_append hmatch]
      rfl
    have hnestb : nest (squash b) = .leaf (.text (String.ofList cs'))
        ⟨start + Text.byteSize cs, start + Text.byteSize cs + Text.byteSize cs'⟩ ::
          nest (back.map Run.mark) := by
      rw [squash, hback]
      rfl
    rw [hnesta, hnestb, List.append_assoc, List.singleton_append, coalesce_append_text,
      ← String.ofList_append, Nat.add_assoc, ← Text.byteSize_append, ← hnest,
      coalesce_of_apart hchain]

/-! ### Templates -/

/-- Pieces whose sections are matched bring in no fault. -/
theorem Scan.tree_prepend {pieces : List Piece} (h : matchSections pieces = .ok []) (s : Scan) :
    (s.prepend pieces).tree =
      s.tree.map fun _ => nest (squash (settle (pieces ++ s.pieces))) := by
  obtain ⟨more, fault⟩ := s
  have hmatch : matchSections (pieces ++ more) = matchSections more := matchSections_append h more
  simp only [Scan.tree, Scan.prepend, hmatch, bind, Except.bind]
  cases matchSections more with
  | error fault => rfl
  | ok opened =>
    cases fault with
    | some fault => rfl
    | none => cases opened <;> rfl

section Join

variable {d : Delimiters} {source : List Char} {pieces : List Piece}
  (h : Scans d 0 source pieces) (hopened : (tagsOf pieces).foldlM matchMark [] = .ok [])
include h hopened

theorem foldlM_matchMark_squash_settle :
    (squash (settle pieces)).foldlM matchMark [] = .ok [] := by
  rw [← foldlM_matchMark_filter, filter_isTag_squash_settle h, hopened]

/-- Behind the tree of a text the delimiters are in force that its tags leave. -/
theorem delimitersAfterAll_nest :
    Token.delimitersAfterAll d (nest (squash (settle pieces))) = inForce d (tagsOf pieces) := by
  rw [(unfolds_nest (foldlM_matchMark_squash_settle h hopened)).delimitersAfterAll,
    ← inForce_filter_isTag, filter_isTag_squash_settle h]

end Join

/-- The tree of a text that is whole lines and more. -/
theorem nest_squash_settle_append {d : Delimiters} {source : List Char} {pieces more : List Piece}
    (h : Scans d 0 source (pieces ++ more)) (hbreak : ∀ x ∈ pieces.getLast?, x.isLineBreak = true)
    (hpieces : (squash (settle pieces)).foldlM matchMark [] = .ok [])
    (hall : (tagsOf (pieces ++ more)).foldlM matchMark [] = .ok []) :
    nest (squash (settle (pieces ++ more))) =
      coalesce (nest (squash (settle pieces)) ++ nest (squash (settle more))) := by
  have hglued := (settles (pieces ++ more)).glued h.tiles.glued
  have hchain := (unfolds_nest (foldlM_matchMark_squash_settle h hall)).isChain
    (isChain_squash_settle h)
  rw [settle_append hbreak] at hglued hchain ⊢
  exact nest_squash_append hglued hpieces hchain

/-- **Templates compose at line ends.** Behind whole lines a text is read as it would be on its own
with the delimiters then in force, further on: its tree follows that of the lines, texts that meet
being joined, and its fault is the fault of the whole. -/
theorem parse_append_of_lineEnd {d : Delimiters} {a : List Char} {tokens : List Token}
    (ha : a = [] ∨ a.getLast? = some '\n') (hok : parse d a = .ok tokens) (b : List Char) :
    parse d (a ++ b) =
      match parse (Token.delimitersAfterAll d tokens) b with
      | .ok more => .ok (coalesce (tokens ++ more.map (·.shift (Text.byteSize a))))
      | .error fault => .error (fault.shift (Text.byteSize a)) := by
  obtain ⟨pieces, hscans, hopened, rfl⟩ := parse_eq_ok_iff.1 hok
  have hbreak : ∀ c ∈ a.getLast?, c = '\n' := by
    rcases ha with rfl | hlast
    · exact nofun
    · intro c hc
      exact Option.some.inj (hc.symm.trans hlast)
  have hblank : ∀ c ∈ a.getLast?, Text.isBlank c = true := by
    intro c hc
    rw [hbreak c hc]
    decide
  rw [delimitersAfterAll_nest hscans hopened]
  have hscan := hscans.scan_append hblank b
  rw [Nat.zero_add] at hscan
  have hpieces : matchSections pieces = .ok [] := by
    rw [matchSections, foldlM_matchSection, hopened]
  have htree := tree_scan (inForce d (tagsOf pieces)) (Text.byteSize a) b
  rw [parse_eq_tree, hscan, Scan.tree_prepend hpieces, htree]
  cases hmore : parse (inForce d (tagsOf pieces)) b with
  | error fault => rfl
  | ok more =>
    rw [hmore, shiftResult_ok, Scan.tree_eq_ok_iff] at htree
    generalize hs : scan (inForce d (tagsOf pieces)) (Text.byteSize a) b = s at htree hscan
    obtain ⟨hfault, hsections, hnest⟩ := htree
    have hall : Scans d 0 (a ++ b) (pieces ++ s.pieces) := by
      refine scan_eq_iff.1 (hscan.trans ?_)
      rw [Scan.prepend, hfault]
    have hmatch : (tagsOf (pieces ++ s.pieces)).foldlM matchMark [] = .ok [] := by
      rw [matchSections, foldlM_matchSection] at hsections
      rw [tagsOf_append, List.foldlM_append, hopened]
      exact hsections
    rw [shiftResult_ok, Except.map, nest_squash_settle_append hall
      (hscans.isLineBreak_getLast? hbreak) (foldlM_matchMark_squash_settle hscans hopened) hmatch,
      hnest]

/-- A section under delimiters of its own, and a last line. -/
def castTemplate : List Char :=
  "\x7b\x7b=<% %>=\x7d\x7d\n<%#cast%>\n- <%name%>\n<%/cast%>\nÉnd\n".toList

/-- The tree of that template. -/
def castTokens : List Token :=
  [.leaf (.delimiters ⟨"<%", "%>", .refl true, .refl true⟩) ⟨0, 11⟩,
    .block false "cast" ⟨12, 21⟩
      [.leaf (.text "- ") ⟨22, 24⟩, .leaf (.escaped "name") ⟨24, 32⟩, .leaf (.text "\n") ⟨32, 33⟩] 33,
    .leaf (.text "Énd\n") ⟨43, 48⟩]

/-- More text behind the last line, and a closing tag there that no section waits for. -/
theorem parse_append_castTemplate :
    (castTemplate = [] ∨ castTemplate.getLast? = some '\n') ∧
      parse .standard castTemplate = .ok castTokens ∧
      parse .standard (castTemplate ++ "of <%film%>".toList) =
        .ok (castTokens.dropLast ++
          [.leaf (.text "Énd\nof ") ⟨43, 51⟩, .leaf (.escaped "film") ⟨51, 59⟩]) ∧
      parse .standard (castTemplate ++ "of <%/cast%>".toList) =
        .error (.unmatchedSection "cast" none ⟨51, 60⟩) := by
  have hline : castTemplate = [] ∨ castTemplate.getLast? = some '\n' := .inr (by decide +kernel)
  have hok : parse .standard castTemplate = .ok castTokens := by with_unfolding_all rfl
  have hmore : parse (Token.delimitersAfterAll .standard castTokens) "of <%film%>".toList =
      .ok [.leaf (.text "of ") ⟨0, 3⟩, .leaf (.escaped "film") ⟨3, 11⟩] := by
    with_unfolding_all rfl
  have hfault : parse (Token.delimitersAfterAll .standard castTokens) "of <%/cast%>".toList =
      .error (.unmatchedSection "cast" none ⟨3, 12⟩) := by with_unfolding_all rfl
  refine ⟨hline, hok, ?_, ?_⟩
  · rw [parse_append_of_lineEnd hline hok, hmore]
    with_unfolding_all rfl
  · rw [parse_append_of_lineEnd hline hok, hfault]
    with_unfolding_all rfl

end LiveTable.Template
