import LiveTable.Proofs.Template.Compiling
import LiveTable.Proofs.Template.Framing
import LiveTable.Proofs.Template.Layout
import LiveTable.Proofs.Template.Shifting
import LiveTable.Proofs.Template.Stepwise

/-!
# The text of a section stands for its body

The text between the tags of a section, parsed on its own with the delimiters in force behind the
opening tag, gives what is inside the section, with places counted from the end of that tag. A
lambda that renders its section text so renders what the section itself would.

* `standsAt_iff`, `StandsAt.append`: what stands in a part of a template stands in the template;
* `ofTokens_shift`: so the program of a part is the program of these tokens;
* `exists_of_squash_eq`: a tag cuts the pieces as it cuts the marks;
* `exists_of_squash_opening`: what stands between two tags is read as if it stood alone;
* `exists_parse_sectionText`: the text of a section, and its tree;
* `renderNodes_sectionText`: what a lambda renders that renders its section text;
* `standsForBody_of_within`: the text of a section stands for its body.
-/

namespace LiveTable.Template

/-! ### Places -/

/-- What a span holds stands there. -/
theorem standsAt_iff {source cs : List Char} {span : Span} :
    StandsAt source span cs ↔ Text.slice? span source = some cs := by
  refine ⟨StandsAt.slice?_eq, fun h => ?_⟩
  obtain ⟨start, stop⟩ := span
  unfold Text.slice? at h
  split at h
  · rename_i hle
    obtain ⟨rest, hrest, htake⟩ := Option.bind_eq_some_iff.1 h
    obtain ⟨front, rfl, rfl⟩ := Text.dropBytes?_eq_some_iff.1 hrest
    obtain ⟨back, hback, rfl⟩ := Option.map_eq_some_iff.1 htake
    obtain ⟨inside, rfl, hsize⟩ := Text.dropBytes?_eq_some_iff.1 hback
    refine ⟨front, back, by simp, ?_⟩
    simp at hle hsize ⊢
    omega
  · cases h

/-- A text that stands in a part of the template stands in the template, further on. -/
theorem StandsAt.append {text cs : List Char} {span : Span} (h : StandsAt text span cs)
    (front back : List Char) :
    StandsAt (front ++ (text ++ back)) (span.shift (Text.byteSize front)) cs := by
  obtain ⟨before, after, rfl, rfl⟩ := h
  refine ⟨front ++ before, after ++ back, by simp, ?_⟩
  simp [Nat.add_comm, Nat.add_left_comm]

/-! ### Programs -/

/-- The text between the tags of each section among the tokens can be had. -/
def Bodied (source : List Char) (tokens : List Token) : Prop :=
  ∀ inverted name span children close,
    (Token.block inverted name span children close).Within tokens →
      ∃ cs, (Token.block inverted name span children close).sectionText? source = some cs

theorem Bodied.head {source : List Char} {token : Token} {tokens : List Token}
    (h : Bodied source (token :: tokens)) : Bodied source [token] := by
  intro inverted name span children close hwithin
  refine h inverted name span children close ?_
  cases hwithin with
  | head => exact .head
  | inside hwithin => exact .inside hwithin
  | tail hwithin => cases hwithin

mutual

theorem ofToken_shift {text : List Char} (front back : List Char) :
    ∀ token, Bodied text [token] →
      Program.ofToken (front ++ (text ++ back)) (token.shift (Text.byteSize front)) =
        Program.ofToken text token
  | .leaf _ _, _ => by rw [Token.shift_leaf, Program.ofToken, Program.ofToken]
  | .block inverted name span children close, h => by
    have hchildren := ofTokens_shift front back children fun inverted name span children close hin =>
      h inverted name span children close (.inside hin)
    obtain ⟨cs, hcs⟩ := h _ _ _ _ _ .head
    have hstands := (standsAt_iff.2 hcs).append front back
    rw [Token.shift_block]
    cases inverted with
    | false =>
      rw [Program.ofToken, Program.ofToken, hchildren]
      rw [Token.sectionText?] at hcs
      rw [standsAt_iff, Span.shift_mk] at hstands
      simp only [Span.stop_shift, hcs, hstands]
    | true => rw [Program.ofToken, Program.ofToken, hchildren]

/-- The program of the tokens of a part of the template is that of the part. -/
theorem ofTokens_shift {text : List Char} (front back : List Char) :
    ∀ tokens, Bodied text tokens →
      Program.ofTokens (front ++ (text ++ back)) (tokens.map (·.shift (Text.byteSize front))) =
        Program.ofTokens text tokens
  | [], _ => by rw [List.map_nil, Program.ofTokens, Program.ofTokens]
  | token :: tokens, h => by
    rw [List.map_cons, Program.ofTokens, Program.ofTokens, ofToken_shift front back token h.head,
      ofTokens_shift front back tokens fun inverted name span children close hin =>
        h inverted name span children close (.tail hin)]

end

/-! ### Pieces -/

/-- A tag among the marks is a tag among the pieces, and cuts them as it cuts the marks. -/
theorem exists_of_squash_eq {pieces : List Piece} {front back : List Mark} {mark : Mark}
    (hglued : Glued pieces) (htag : mark.isTag = true)
    (h : squash pieces = front ++ mark :: back) :
    ∃ before after, pieces = before ++ .tag mark :: after ∧ squash before = front ∧
      squash after = back := by
  obtain ⟨first, more, hruns, rfl, hmore⟩ := List.map_eq_append_iff.1 h
  obtain ⟨run, last, rfl, hrun, rfl⟩ := List.map_eq_cons_iff.1 hmore
  have hapart := apart_runs pieces
  have hpieces := flatMap_pieces_runs hglued
  rw [hruns] at hapart hpieces
  obtain rfl : run = .tag mark := by
    cases run with
    | text cs start =>
      rw [← hrun] at htag
      cases htag
    | tag m => exact congrArg Run.tag hrun
  refine ⟨first.flatMap Run.pieces, last.flatMap Run.pieces, ?_, ?_, ?_⟩
  · rw [← hpieces, List.flatMap_append, List.flatMap_cons]
    rfl
  · rw [squash, runs_flatMap_pieces hapart.of_append_left]
  · rw [squash, runs_flatMap_pieces hapart.of_append_right.tail]

/-- In a text without line breaks no piece is one. -/
theorem Scans.unbroken {d : Delimiters} {position : Nat} {cs : List Char} {pieces : List Piece}
    (h : Scans d position cs pieces) (hline : '\n' ∉ cs) : Unbroken pieces := by
  intro x hx
  by_contra hbreak
  obtain ⟨start, rfl⟩ := Piece.isLineBreak_iff.1 (by simpa using hbreak)
  obtain ⟨front, back, rfl, -⟩ := h.exists_of_char hx
  exact hline (by simp)

/-! ### Sections -/

section Line

variable {d : Delimiters} {position : Nat} {source : List Char} {pieces : List Piece}
  (h : Scans d position source pieces) (hline : '\n' ∉ source)
include h hline

theorem filter_isTag_squash : (squash pieces).filter Mark.isTag = tagsOf pieces := by
  have hfilter := filter_isTag_squash_settle h
  rwa [settle_of_unbroken (h.unbroken hline)] at hfilter

theorem inForce_squash : inForce d (squash pieces) = inForce d (tagsOf pieces) := by
  rw [← inForce_filter_isTag, filter_isTag_squash h hline]

/-- **What stands between two tags is read as if it stood alone**, with the delimiters in force
behind the first one. -/
theorem exists_of_squash_opening {front inner back : List Mark} {inverted : Bool}
    {name name' : String} {span span' : Span}
    (hsplit : squash pieces = front ++ .opening inverted name span ::
      (inner ++ .closing name' span' :: back)) :
    ∃ before text after between, source = before ++ (text ++ after) ∧
      span.stop = position + Text.byteSize before ∧
      span'.start = span.stop + Text.byteSize text ∧
      Scans (inForce d front) span.stop text between ∧ squash between = inner := by
  have hglued := h.tiles.glued
  obtain ⟨outside, more, rfl, rfl, hmore⟩ := exists_of_squash_eq hglued rfl hsplit
  have hgluedMore := (List.isChain_append.1 hglued).2.1
  obtain ⟨between, rest, rfl, hbetween, -⟩ :=
    exists_of_squash_eq (List.isChain_cons.1 hgluedMore).2 rfl hmore
  -- the text is cut before the opening tag, and what follows that tag before the closing one
  obtain ⟨before, back, rfl, hbefore, hback⟩ := h.cut
  have hlineBefore : '\n' ∉ before := fun hmem => hline (List.mem_append_left _ hmem)
  cases hback with
  | tag htag hbody =>
    obtain ⟨written, rfl, -, -, hspan⟩ := htag.exists_written
    obtain ⟨text, after, rfl, htext, hafter⟩ := hbody.cut
    cases hafter with
    | tag hclosing _ =>
      obtain ⟨_, -, -, -, hspan'⟩ := hclosing.exists_written
      refine ⟨before ++ written, text, after, between, by simp, ?_, ?_, ?_, hbetween⟩
      · rw [Text.byteSize_append, ← Nat.add_assoc]
        exact congrArg Span.stop hspan
      · exact congrArg Span.start hspan'
      · rw [inForce_squash hbefore hlineBefore]
        exact htext

end Line

/-- A text that is read on its own has its tree. -/
theorem exists_parse_of_unfolds {d : Delimiters} {position : Nat} {text : List Char}
    {pieces : List Piece} (h : Scans d position text pieces) (hline : '\n' ∉ text)
    {children : List Token} (hunfolds : Unfolds children (squash pieces)) :
    ∃ body, parse d text = .ok body ∧ children = body.map (·.shift position) := by
  have hmatch : matchSections pieces = .ok [] := by
    rw [matchSections, foldlM_matchSection, ← filter_isTag_squash h hline,
      foldlM_matchMark_filter, hunfolds.foldlM_matchMark]
  have htree : (Scan.mk pieces none).tree = .ok children := by
    refine Scan.tree_eq_ok_iff.2 ⟨rfl, hmatch, ?_⟩
    rw [settle_of_unbroken (h.unbroken hline), nest_eq_of_unfolds hunfolds]
  rw [← scan_eq_iff.2 h, tree_scan] at htree
  cases hparse : parse d text with
  | error fault =>
    rw [hparse] at htree
    cases htree
  | ok body =>
    rw [hparse] at htree
    cases htree
    exact ⟨body, rfl, rfl⟩

/-- **The text of a section stands for its body.** -/
theorem exists_parse_sectionText {d : Delimiters} {source : List Char} {tokens : List Token}
    (hline : '\n' ∉ source) (hok : parse d source = .ok tokens) {inverted : Bool} {name : String}
    {span : Span} {children : List Token} {close : Nat} {t : Delimiters}
    (hread : (Token.block inverted name span children close).ReadWith t d tokens) :
    ∃ before text after body, source = before ++ (text ++ after) ∧
      span.stop = Text.byteSize before ∧ close = span.stop + Text.byteSize text ∧
      parse t text = .ok body ∧ children = body.map (·.shift span.stop) := by
  obtain ⟨pieces, hscans, hopened, rfl⟩ := parse_eq_ok_iff.1 hok
  rw [settle_of_unbroken (hscans.unbroken hline)] at hread
  have hunfolds : Unfolds (nest (squash pieces)) (squash pieces) := by
    refine unfolds_nest ?_
    rw [← foldlM_matchMark_filter, filter_isTag_squash hscans hline, hopened]
  obtain ⟨front, inner, back, stop, hsplit, rfl, hinner⟩ := hunfolds.exists_block hread
  obtain ⟨before, text, after, between, rfl, hstop, hclose, htext, rfl⟩ :=
    exists_of_squash_opening hscans hline hsplit
  obtain ⟨body, hbody, hchildren⟩ :=
    exists_parse_of_unfolds htext (fun hmem => hline (by simp [hmem])) hinner
  exact ⟨before, text, after, body, rfl, by simpa using hstop, hclose, hbody, hchildren⟩

/-! ### Rendering -/

/-- Engines that differ in nothing but what they keep render alike. -/
theorem Engine.Peers.render {e e' : Engine} (h : e.Peers e') (depth : Nat) (program : Program)
    (frame : Frame) :
    ((program.render depth).run.run ⟨e, frame⟩).run.1 =
      ((program.render depth).run.run ⟨e', frame⟩).run.1 := by
  obtain ⟨result, after, f, f', hrun, hrun', -⟩ := (stepwise_render depth program).sideBySide
    (fun _ _ h => h.compile templateName .standard) (fun _ _ h => h.loadPartial) h frame
  rw [hrun, hrun']

/-- What a lambda writes that renders a template between two texts, by what becomes of that. -/
def rendering (before after : String) : Except Stop String → Except Stop String
  | .ok out => .ok (before ++ out ++ after)
  | .error (.fault error) => .ok ("!" ++ error.fault.message)
  | .error .tooDeep => .error .tooDeep

/-- A lambda that renders its section text enters the program of that text. -/
theorem perform_sectionText {scene : Scene} (hsound : scene.engine.Sound) (depth : Nat)
    {text : String} {program : Program}
    (hprogram : compile templateName .standard text = .ok program) (before after : String) :
    ((perform (Program.render depth) (some text)
        (.render .sectionText before after)).run.run scene).run.1 =
      (rendering before after ((program.render depth).run.run scene).run.1).map .string := by
  obtain ⟨e, frame⟩ := scene
  have hcompile := (e.compile_eq templateName .standard text hsound).trans hprogram
  have hrender := (hsound.peers_compile templateName .standard text).render depth program frame
  have hdisplay : (((some text).map Value.string).getD .null).display = text := rfl
  rw [perform, perform, pure_bind, hdisplay, Render.run_bind, Render.run_attempt, Render.run_bind,
    Render.run_onEngine]
  dsimp only
  rw [hcompile]
  dsimp only [Except.mapError]
  rw [← hrender]
  rcases ((program.render depth).run.run _).run with ⟨(_ | _) | out, after⟩ <;> rfl

/-- A section over a lambda that renders the section text enters the program of that text. -/
theorem renderNodes_sectionText {scene : Scene} (hsound : scene.engine.Sound) (depth : Nat)
    {name : String} {identity : Nat} {before after : String}
    (hlookup : (scene.frame.lookup name).1 = .lambda identity (.render .sectionText before after))
    {body program : Program} {text : Thunk String}
    (hprogram : compile templateName .standard text.get = .ok program) :
    ((renderNodes (Program.render depth) [.block name body text]).run.run scene).run.1 =
      rendering before after ((program.render depth).run.run
        { scene with frame := (scene.frame.lookup name).2 }).run.1 := by
  have hperform := @perform_sectionText { scene with frame := (scene.frame.lookup name).2 }
    hsound depth text.get program hprogram before after
  rw [renderNodes, renderNodes, renderNode, Render.run_bind, Render.run_bind, Render.run_lookup,
    hlookup]
  dsimp only
  rw [Render.run_bind]
  generalize ((program.render depth).run.run _).run.1 = result at hperform ⊢
  generalize ((perform _ _ _).run.run _).run = r at hperform ⊢
  obtain ⟨answer, after'⟩ := r
  obtain rfl : answer = _ := hperform
  rcases result with (fault | _) | out
  · simp [rendering, Except.map, Value.display]
  · rfl
  · simp [rendering, Except.map, Value.display]

/-- What the text of a section is good for, `t` being the delimiters in force behind its opening
tag. -/
structure StandsForBody (source : List Char) (t : Delimiters) (inverted : Bool) (name : String)
    (span : Span) (children : List Token) (close : Nat) : Prop where
  /-- Parsed on its own it gives what is inside the section, counted from the end of the opening
  tag. -/
  parses : ∃ text body,
    (Token.block inverted name span children close).sectionText? source = some text ∧
      parse t text = .ok body ∧ children = body.map (·.shift span.stop)
  /-- A lambda that renders it with the standard delimiters renders the body of the section, entered
  as a program, in the frame in which the section stands. -/
  renders : t = .standard → inverted = false →
    ∀ (scene : Scene) (depth identity : Nat) (before after : String), scene.engine.Sound →
      (scene.frame.lookup name).1 = .lambda identity (.render .sectionText before after) →
      ((renderNodes (Program.render depth) (Program.ofToken source
          (.block inverted name span children close))).run.run scene).run.1 =
        rendering before after (((Program.ofTokens source children).render depth).run.run
          { scene with frame := (scene.frame.lookup name).2 }).run.1

/-- **The text of a section stands for its body**, in a template without line breaks: for a section
at any depth, and whatever delimiters are changed in it or before it. -/
theorem standsForBody_of_within {d : Delimiters} {source : List Char} {tokens : List Token}
    (hline : '\n' ∉ source) (hok : parse d source = .ok tokens) {inverted : Bool} {name : String}
    {span : Span} {children : List Token} {close : Nat}
    (hwithin : (Token.block inverted name span children close).Within tokens) :
    (∃ t, (Token.block inverted name span children close).ReadWith t d tokens) ∧
      ∀ t, (Token.block inverted name span children close).ReadWith t d tokens →
        StandsForBody source t inverted name span children close := by
  refine ⟨hwithin.exists_readWith d, fun t hread => ?_⟩
  obtain ⟨before, text, after, body, rfl, hstop, rfl, hbody, rfl⟩ :=
    exists_parse_sectionText hline hok hread
  have hslice : Text.slice? ⟨span.stop, span.stop + Text.byteSize text⟩
      (before ++ (text ++ after)) = some text := by
    rw [hstop, Text.slice?_append]
  refine ⟨⟨text, body, hslice, hbody, rfl⟩, ?_⟩
  rintro rfl rfl scene depth identity first last hsound hlookup
  -- the sections inside have their texts in the text of the section, so these are the same
  have hprogram : Program.ofTokens (before ++ (text ++ after)) (body.map (·.shift span.stop)) =
      Program.ofTokens text body := by
    rw [hstop]
    refine ofTokens_shift before after body fun inverted name span children close hin => ?_
    obtain ⟨marks, hlayout⟩ := (parse_layout .standard text).1 body hbody
    exact (hlayout.sections inverted name span children close hin).1
  have htext : (String.ofList ((Text.slice? ⟨span.stop, span.stop + Text.byteSize text⟩
      (before ++ (text ++ after))).getD [])).toList = text := by
    rw [hslice, Option.getD_some, String.toList_ofList]
  rw [Program.ofToken, hprogram]
  refine renderNodes_sectionText hsound depth hlookup (compile_eq_ok_iff.2 ⟨body, ?_, ?_⟩)
  · exact (congrArg (parse .standard) htext).trans hbody
  · exact congrArg (Program.ofTokens · body) htext

/-- A section in a section, the inner one under delimiters of its own. -/
def filmTemplate : List Char :=
  "É\x7b\x7b#film\x7d\x7d\x7b\x7b=<% %>=\x7d\x7d<%^cast%>no <%&star%><%/cast%><%/film%>".toList

/-- What is inside the inner section of that template. -/
def castBody : List Token := [.leaf (.text "no ") ⟨31, 34⟩, .leaf (.raw "star") ⟨34, 43⟩]

/-- What is inside the outer section of that template. -/
def filmBody : List Token :=
  [.leaf (.delimiters ⟨"<%", "%>", .refl true, .refl true⟩) ⟨11, 22⟩,
    .block true "cast" ⟨22, 31⟩ castBody 43]

/-- A film without a cast, and a lambda that renders what is between the tags of its section. -/
def filmView : Value :=
  .object [("film", .lambda 0 (.render .sectionText "<" ">")), ("star", .string "stars")]

theorem standsForBody_filmTemplate :
    '\n' ∉ filmTemplate ∧
      parse .standard filmTemplate =
        .ok [.leaf (.text "É") ⟨0, 2⟩, .block false "film" ⟨2, 11⟩ filmBody 52] ∧
      StandsForBody filmTemplate .standard false "film" ⟨2, 11⟩ filmBody 52 ∧
      StandsForBody filmTemplate ⟨"<%", "%>", .refl true, .refl true⟩ true "cast" ⟨22, 31⟩ castBody
        43 ∧
      ((renderNodes (Program.render 2) (Program.ofToken filmTemplate
        (.block false "film" ⟨2, 11⟩ filmBody 52))).run.run
          ⟨.empty, .root filmView⟩).run.1.toOption = some "<no stars>" := by
  have hline : '\n' ∉ filmTemplate := by decide +kernel
  have hok : parse .standard filmTemplate =
    .ok [.leaf (.text "É") ⟨0, 2⟩, .block false "film" ⟨2, 11⟩ filmBody 52] := by
    with_unfolding_all rfl
  have hfilm := (standsForBody_of_within hline hok (.tail .head)).2 .standard (.tail .head)
  have hcast := (standsForBody_of_within hline hok (.tail (.inside (.tail .head)))).2 _
    (.tail (.inside (.tail .head)))
  refine ⟨hline, hok, hfilm, hcast, ?_⟩
  rw [hfilm.renders rfl rfl ⟨.empty, .root filmView⟩ 2 0 "<" ">" Engine.sound_empty rfl]
  decide +kernel

end LiveTable.Template
