import LiveTable.Proofs.Template.Joining
import Mathlib.Data.List.DropRight

/-!
# Drafts

The lines that leave no trace can be dropped while a text is read. A draft holds all tokens so far,
and the indices of the blanks in the current line; when the line ends, these are taken out again,
the last one first, if the line leaves no trace. Every index could point at the wrong token, or at
none.

* `Draft`: the tokens so far, and what is known of the current line;
* `Draft.put`, `Draft.putAll`, `Draft.putTag`: the draft with more characters, or one more tag;
* `currentLine pieces`, `wholeLines pieces`: what comes after and before the last line break;
* `Pending line spaces tokens`: the indices point at blanks of the line among the tokens;
* `Pending.removes`: taking them out one by one, each time the token is the one that was meant;
* `Draft.Holds w pieces`: the draft is that of the pieces;
* `Draft.Holds.put`: it stays in step with one more character.
-/

namespace LiveTable.Template

/-- The tokens so far. Of the current line, the indices of its blanks are kept, the last one first,
whether it holds a tag, and whether it holds anything that would show. -/
structure Draft where
  tokens : List Piece
  spaces : List Nat
  hasTag : Bool
  nonSpace : Bool

namespace Draft

def empty : Draft := ⟨[], [], false, false⟩

/-- The draft with one more character, before a line break ends the line. -/
def push (w : Draft) (c : Char) (start : Nat) : Draft :=
  let w :=
    if Text.isBlank c then { w with spaces := w.tokens.length :: w.spaces }
    else { w with nonSpace := true }
  { w with tokens := w.tokens ++ [.char c start] }

/-- The tokens but for those at the indices, which are taken out one by one, if there are any. -/
def takeOut : List Nat → List Piece → Option (List Piece)
  | [], tokens => some tokens
  | i :: spaces, tokens =>
    if i < tokens.length then takeOut spaces (tokens.eraseIdx i) else none

/-- The draft when the line has ended. -/
def strip (w : Draft) (standalone : Bool) : Option Draft :=
  if standalone then do pure { w with tokens := ← takeOut w.spaces w.tokens, spaces := [] }
  else pure { w with spaces := [] }

/-- The draft with one more character. -/
def put (w : Draft) (c : Char) (start : Nat) : Option Draft :=
  let w := w.push c start
  if c = '\n' then do
    let w ← w.strip (w.hasTag && !w.nonSpace)
    pure { w with hasTag := false, nonSpace := false }
  else pure w

/-- The draft with the characters of a text that stands at `start`. -/
def putAll (w : Draft) (start : Nat) : List Char → Option Draft
  | [] => pure w
  | c :: cs => do (← w.put c start).putAll (start + c.utf8Size) cs

/-- The draft with one more tag. -/
def putTag (w : Draft) (mark : Mark) : Draft :=
  { w with
    tokens := w.tokens ++ [.tag mark]
    hasTag := true
    nonSpace := w.nonSpace || mark.isValue }

end Draft

/-! ### Lines -/

/-- The pieces behind the last line break. -/
def currentLine (pieces : List Piece) : List Piece := pieces.rtakeWhile (!·.isLineBreak)

/-- The pieces up to the last line break. -/
def wholeLines (pieces : List Piece) : List Piece := pieces.rdropWhile (!·.isLineBreak)

section Lines

variable {x : Piece}

theorem wholeLines_append_currentLine (pieces : List Piece) :
    wholeLines pieces ++ currentLine pieces = pieces := List.rdropWhile_append_rtakeWhile ..

theorem unbroken_currentLine (pieces : List Piece) : Unbroken (currentLine pieces) := fun x hx => by
  simpa using List.mem_rtakeWhile_imp hx

theorem currentLine_concat (pieces : List Piece) (h : x.isLineBreak = false) :
    currentLine (pieces ++ [x]) = currentLine pieces ++ [x] :=
  List.rtakeWhile_concat_pos _ _ _ (by simp [h])

theorem wholeLines_concat (pieces : List Piece) (h : x.isLineBreak = false) :
    wholeLines (pieces ++ [x]) = wholeLines pieces :=
  List.rdropWhile_concat_pos _ _ _ (by simp [h])

theorem currentLine_concat_lineBreak (pieces : List Piece) (h : x.isLineBreak = true) :
    currentLine (pieces ++ [x]) = [] :=
  List.rtakeWhile_concat_neg _ _ _ (by simp [h])

theorem wholeLines_concat_lineBreak (pieces : List Piece) (h : x.isLineBreak = true) :
    wholeLines (pieces ++ [x]) = pieces ++ [x] :=
  List.rdropWhile_concat_neg _ _ _ (by simp [h])

theorem isLineBreak_of_mem_getLast?_wholeLines (pieces : List Piece) :
    ∀ y ∈ (wholeLines pieces).getLast?, y.isLineBreak = true := by
  unfold wholeLines
  intro y hy
  have hne := List.ne_nil_of_mem (List.mem_of_mem_getLast? hy)
  have hlast := List.rdropWhile_last_not _ _ hne
  rw [List.getLast?_eq_some_getLast hne, Option.mem_some] at hy
  rw [← hy]
  simpa using hlast

/-- The whole lines are settled, and the current one is kept as it is. -/
theorem settle_eq (pieces : List Piece) :
    settle pieces = settle (wholeLines pieces) ++ currentLine pieces := by
  conv_lhs => rw [← wholeLines_append_currentLine pieces]
  rw [settle_append (isLineBreak_of_mem_getLast?_wholeLines pieces),
    settle_of_unbroken (unbroken_currentLine pieces)]

theorem settleFrom_line {line : List Piece} {body : List Piece} (hbody : Unbroken body)
    (hx : x.isLineBreak = true) :
    settleFrom line (body ++ [x]) = settleLine (line.reverse ++ (body ++ [x])) := by
  induction body generalizing line with
  | nil => rw [List.nil_append, settleFrom, if_pos hx, settleFrom]; simp
  | cons y body ih =>
    rw [List.cons_append, settleFrom, if_neg (by simp [hbody y List.mem_cons_self]),
      ih fun z hz => hbody z (List.mem_cons_of_mem _ hz)]
    simp

/-- A line break settles the line that it ends. -/
theorem settle_concat_lineBreak (pieces : List Piece) (hx : x.isLineBreak = true) :
    settle (pieces ++ [x]) =
      settle (wholeLines pieces) ++ settleLine (currentLine pieces ++ [x]) := by
  conv_lhs => rw [← wholeLines_append_currentLine pieces, List.append_assoc]
  rw [settle_append (isLineBreak_of_mem_getLast?_wholeLines pieces)]
  exact congrArg _ (settleFrom_line (unbroken_currentLine pieces) hx)

end Lines

/-! ### Indices of blanks -/

/-- The piece is a blank outside tags. -/
def Piece.isBlank : Piece → Bool
  | char c _ => Text.isBlank c
  | tag _ => false

/-- The indices of the blanks in a line whose first piece has the index `n`. -/
def blanksAt (n : Nat) : List Piece → List Nat
  | [] => []
  | x :: line => if x.isBlank then n :: blanksAt (n + 1) line else blanksAt (n + 1) line

/-- The indices, the last one first, are strictly decreasing, and point at blanks of the line among
the tokens. -/
structure Pending (line : List Piece) (spaces : List Nat) (tokens : List Piece) : Prop where
  decreasing : spaces.Pairwise (· > ·)
  lt_length : ∀ i ∈ spaces, i < tokens.length
  blank : ∀ i ∈ spaces, ∃ c start, tokens[i]? = some (.char c start) ∧ Text.isBlank c = true ∧
    .char c start ∈ line

/-- Taking tokens out one by one, the indices that are left are pending each time, and the token
taken out is the one recorded at its index. -/
def Removes (line recorded : List Piece) : List Nat → List Piece → Prop
  | [], _ => True
  | i :: spaces, tokens => Pending line (i :: spaces) tokens ∧ tokens[i]? = recorded[i]? ∧
    Removes line recorded spaces (tokens.eraseIdx i)

section Indices

variable {line kept tokens : List Piece} {spaces : List Nat}

theorem blanksAt_append (n : Nat) (a b : List Piece) :
    blanksAt n (a ++ b) = blanksAt n a ++ blanksAt (n + a.length) b := by
  induction a generalizing n with
  | nil => rfl
  | cons x a ih =>
    have hlength : n + 1 + a.length = n + (x :: a).length := by
      rw [List.length_cons]
      omega
    rw [List.cons_append, blanksAt, blanksAt, ih, hlength]
    split <;> rfl

theorem mem_blanksAt {n i : Nat} {pieces : List Piece} :
    i ∈ blanksAt n pieces ↔
      ∃ j x, pieces[j]? = some x ∧ x.isBlank = true ∧ i = n + j := by
  induction pieces generalizing n with
  | nil => simp [blanksAt]
  | cons x pieces ih =>
    have hmem : i ∈ blanksAt n (x :: pieces) ↔
        (x.isBlank = true ∧ i = n) ∨ i ∈ blanksAt (n + 1) pieces := by
      rw [blanksAt]
      split <;> simp [*]
    rw [hmem, ih]
    constructor
    · rintro (⟨hx, rfl⟩ | ⟨j, y, hj, hy, rfl⟩)
      · exact ⟨0, x, rfl, hx, rfl⟩
      · exact ⟨j + 1, y, hj, hy, by omega⟩
    · rintro ⟨j, y, hj, hy, rfl⟩
      cases j with
      | zero =>
        obtain rfl := Option.some.inj hj
        exact .inl ⟨hy, rfl⟩
      | succ j => exact .inr ⟨j, y, hj, hy, by omega⟩

theorem pairwise_blanksAt (n : Nat) (pieces : List Piece) :
    (blanksAt n pieces).Pairwise (· < ·) := by
  induction pieces generalizing n with
  | nil => exact .nil
  | cons x pieces ih =>
    rw [blanksAt]
    split
    · refine .cons (fun i hi => ?_) (ih (n + 1))
      obtain ⟨j, -, -, -, rfl⟩ := mem_blanksAt.1 hi
      omega
    · exact ih (n + 1)

/-- The indices of the blanks of a line are pending. -/
theorem pending_blanksAt (kept line : List Piece) :
    Pending line (blanksAt kept.length line).reverse (kept ++ line) := by
  have hblank : ∀ i ∈ (blanksAt kept.length line).reverse, ∃ c start,
      (kept ++ line)[i]? = some (.char c start) ∧ Text.isBlank c = true ∧ .char c start ∈ line := by
    intro i hi
    obtain ⟨j, x, hj, hx, rfl⟩ := mem_blanksAt.1 (List.mem_reverse.1 hi)
    cases x with
    | tag mark => cases hx
    | char c start =>
      refine ⟨c, start, ?_, hx, List.mem_of_getElem? hj⟩
      rw [List.getElem?_append_right (Nat.le_add_right _ _), Nat.add_sub_cancel_left, hj]
  refine ⟨List.pairwise_reverse.2 (pairwise_blanksAt _ _), fun i hi => ?_, hblank⟩
  obtain ⟨c, start, hi, -⟩ := hblank i hi
  exact (List.getElem?_eq_some_iff.1 hi).1

/-- Taking out the last one leaves the others where they are. -/
theorem Pending.eraseIdx {i : Nat} (h : Pending line (i :: spaces) tokens) :
    Pending line spaces (tokens.eraseIdx i) ∧
      ∀ j ∈ spaces, (tokens.eraseIdx i)[j]? = tokens[j]? := by
  obtain ⟨hi, hdecreasing⟩ := List.pairwise_cons.1 h.decreasing
  have hsame : ∀ j ∈ spaces, (tokens.eraseIdx i)[j]? = tokens[j]? := fun j hj =>
    List.getElem?_eraseIdx_of_lt (hi j hj)
  have hlt := h.lt_length i List.mem_cons_self
  refine ⟨⟨hdecreasing, fun j hj => ?_, fun j hj => ?_⟩, hsame⟩
  · have := hi j hj
    rw [List.length_eraseIdx_of_lt hlt]
    omega
  · rw [hsame j hj]
    exact h.blank j (List.mem_cons_of_mem _ hj)

/-- **Every removal hits the token that was meant**: the one recorded at the index, a blank of the
line. -/
theorem Pending.removes {recorded : List Piece} (h : Pending line spaces tokens)
    (hrecorded : ∀ i ∈ spaces, tokens[i]? = recorded[i]?) :
    Removes line recorded spaces tokens := by
  induction spaces generalizing tokens with
  | nil => trivial
  | cons i spaces ih =>
    obtain ⟨hpending, hsame⟩ := h.eraseIdx
    rw [List.forall_mem_cons] at hrecorded
    refine ⟨h, hrecorded.1, ih hpending fun j hj => ?_⟩
    rw [hsame j hj, hrecorded.2 j hj]

/-- Taking out the blanks of a line leaves the rest of it. -/
theorem takeOut_blanksAt (kept line more : List Piece) :
    Draft.takeOut (blanksAt kept.length line).reverse (kept ++ (line ++ more)) =
      some (kept ++ (line.filter (!·.isBlank) ++ more)) := by
  induction line using List.reverseRecOn generalizing more with
  | nil => rfl
  | append_singleton line x ih =>
    rw [blanksAt_append, List.filter_append, List.append_assoc, List.append_assoc]
    cases hx : x.isBlank with
    | false => simpa [blanksAt, hx] using ih ([x] ++ more)
    | true =>
      have hlt : kept.length + line.length < (kept ++ (line ++ ([x] ++ more))).length := by simp
      have herase : (kept ++ (line ++ ([x] ++ more))).eraseIdx (kept.length + line.length) =
          kept ++ (line ++ more) := by
        rw [← List.append_assoc, ← List.length_append,
          List.eraseIdx_append_of_length_le (Nat.le_refl _), Nat.sub_self, List.append_assoc]
        rfl
      have hlast : (blanksAt kept.length line ++ blanksAt (kept.length + line.length) [x]).reverse =
          (kept.length + line.length) :: (blanksAt kept.length line).reverse := by
        simp [blanksAt, hx]
      have hfilter : [x].filter (!·.isBlank) = [] := by simp [hx]
      rw [hlast, hfilter, Draft.takeOut, if_pos hlt, herase, ih, List.nil_append]

end Indices

/-! ### Drafts of pieces -/

namespace Draft

/-- The draft holds the tokens `kept` of the lines before, and the current line. -/
structure Keeps (w : Draft) (kept line : List Piece) : Prop where
  tokens : w.tokens = kept ++ line
  spaces : w.spaces = (blanksAt kept.length line).reverse
  hasTag : w.hasTag = line.any Piece.isTag
  nonSpace : w.nonSpace = line.any (!·.isUnobtrusive)

namespace Keeps

variable {w : Draft} {kept line : List Piece}

theorem pending (h : w.Keeps kept line) : Pending line w.spaces w.tokens := by
  rw [h.tokens, h.spaces]
  exact pending_blanksAt kept line

theorem push (h : w.Keeps kept line) (c : Char) (start : Nat) :
    (w.push c start).Keeps kept (line ++ [.char c start]) := by
  have hlength : w.tokens.length = kept.length + line.length := by
    rw [h.tokens, List.length_append]
  unfold Draft.push
  cases hc : Text.isBlank c with
  | true =>
    refine ⟨by simp [h.tokens], ?_, by simp [h.hasTag, Piece.isTag], ?_⟩
    · simp [blanksAt_append, blanksAt, Piece.isBlank, hc, h.spaces, hlength]
    · simp [h.nonSpace, Piece.isUnobtrusive, hc]
  | false =>
    refine ⟨by simp [h.tokens], ?_, by simp [h.hasTag, Piece.isTag], ?_⟩
    · simp [blanksAt_append, blanksAt, Piece.isBlank, hc, h.spaces]
    · simp [Piece.isUnobtrusive, hc]

theorem putTag (h : w.Keeps kept line) (mark : Mark) :
    (w.putTag mark).Keeps kept (line ++ [.tag mark]) := by
  refine ⟨by simp [Draft.putTag, h.tokens], ?_, by simp [Draft.putTag, Piece.isTag], ?_⟩
  · simp [Draft.putTag, blanksAt_append, blanksAt, Piece.isBlank, h.spaces]
  · simp [Draft.putTag, h.nonSpace, Piece.isUnobtrusive]

theorem standalone_eq (h : w.Keeps kept line) : (w.hasTag && !w.nonSpace) = standalone line := by
  rw [standalone, h.hasTag, h.nonSpace, List.not_any_eq_all_not]
  simp

/-- **The current line is stripped as it is settled.** -/
theorem strip (h : w.Keeps kept line) : w.strip (w.hasTag && !w.nonSpace) =
    some { w with tokens := kept ++ settleLine line, spaces := [] } := by
  rw [h.standalone_eq, Draft.strip, settleLine]
  cases hline : standalone line with
  | false =>
    rw [if_neg Bool.false_ne_true, if_neg Bool.false_ne_true, ← h.tokens]
    rfl
  | true =>
    -- where nothing shows, what is no blank is a tag
    have hall := (Bool.and_eq_true_iff.1 hline).2
    have hfilter : line.filter (!·.isBlank) = line.filter Piece.isTag := by
      refine List.filter_congr fun x hx => ?_
      have hx := List.all_eq_true.1 hall x hx
      cases x with
      | char c start => simpa [Piece.isBlank, Piece.isTag, Piece.isUnobtrusive] using hx
      | tag mark => rfl
    have htake := takeOut_blanksAt kept line []
    rw [List.append_nil, List.append_nil, hfilter] at htake
    rw [if_pos rfl, if_pos rfl, h.tokens, h.spaces, htake]
    rfl

end Keeps

/-- The draft is that of the pieces: their whole lines are settled. -/
def Holds (w : Draft) (pieces : List Piece) : Prop :=
  w.Keeps (settle (wholeLines pieces)) (currentLine pieces)

theorem holds_empty : empty.Holds [] := ⟨rfl, rfl, rfl, rfl⟩

namespace Holds

variable {w : Draft} {pieces : List Piece}

theorem tokens_eq (h : w.Holds pieces) : w.tokens = settle pieces := by
  rw [settle_eq]
  exact h.tokens

theorem putTag (h : w.Holds pieces) (mark : Mark) :
    (w.putTag mark).Holds (pieces ++ [.tag mark]) := by
  have hbreak : (Piece.tag mark).isLineBreak = false := rfl
  unfold Holds
  rw [wholeLines_concat _ hbreak, currentLine_concat _ hbreak]
  exact Keeps.putTag h mark

/-- **With one more character the draft stays that of the pieces**, and nothing is out of range. -/
theorem put (h : w.Holds pieces) (c : Char) (start : Nat) :
    ∃ w', w.put c start = some w' ∧ w'.Holds (pieces ++ [.char c start]) := by
  have hpush := Keeps.push h c start
  unfold Draft.put
  by_cases hc : c = '\n'
  · have hbreak : (Piece.char c start).isLineBreak = true := by rw [hc]; rfl
    rw [if_pos hc, hpush.strip]
    refine ⟨_, rfl, ?_⟩
    rw [← settle_concat_lineBreak _ hbreak]
    unfold Holds
    rw [wholeLines_concat_lineBreak _ hbreak, currentLine_concat_lineBreak _ hbreak]
    exact ⟨(List.append_nil _).symm, rfl, rfl, rfl⟩
  · have hbreak : (Piece.char c start).isLineBreak = false := beq_eq_false_iff_ne.2 hc
    rw [if_neg hc]
    refine ⟨_, rfl, ?_⟩
    unfold Holds
    rw [wholeLines_concat _ hbreak, currentLine_concat _ hbreak]
    exact hpush

theorem putAll (h : w.Holds pieces) (start : Nat) (cs : List Char) :
    ∃ w', w.putAll start cs = some w' ∧ w'.Holds (pieces ++ spread start cs) := by
  induction cs generalizing w pieces start with
  | nil => exact ⟨w, rfl, by rwa [spread, List.append_nil]⟩
  | cons c cs ih =>
    obtain ⟨w₁, hput, h₁⟩ := h.put c start
    obtain ⟨w', hrest, h'⟩ := ih h₁ (start + c.utf8Size)
    refine ⟨w', ?_, ?_⟩
    · rw [Draft.putAll, hput]
      exact hrest
    · rwa [List.append_assoc] at h'

/-- **When a line break ends the current line, every removal hits the token that was meant.** -/
theorem removes_push (h : w.Holds pieces) (c : Char) (start : Nat) :
    Removes (currentLine pieces ++ [.char c start]) (w.push c start).tokens
      (w.push c start).spaces (w.push c start).tokens :=
  (Keeps.push h c start).pending.removes fun _ _ => rfl

end Holds

end Draft

end LiveTable.Template
