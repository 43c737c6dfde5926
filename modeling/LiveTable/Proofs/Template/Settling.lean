import LiveTable.Proofs.Template.Nesting

/-!
# Settled lines

What a line drops can be told from the places of its pieces.

* `IsLine line`: the pieces are a whole line, its line break included;
* `Settles pieces settled`: the lines are settled one by one;
* `settles`: so does `settle`;
* `Settles.glued`: a settled line leaves no gap between two characters;
* `SameLine pieces p q`: no line break outside tags separates the offsets;
* `Traceless pieces p`: the line of the offset leaves no trace;
* `mem_settle_iff`: a character is dropped if its line leaves no trace.
-/

namespace LiveTable.Template

/-! ### Line by line -/

/-- The pieces hold no line break outside tags. -/
def Unbroken (pieces : List Piece) : Prop := ∀ x ∈ pieces, x.isLineBreak = false

/-- The pieces are a whole line: they end in a line break and hold no other. -/
def IsLine (line : List Piece) : Prop :=
  ∃ body start, line = body ++ [.char '\n' start] ∧ Unbroken body

/-- The lines are settled one by one, and what stands behind the last line break is kept. -/
inductive Settles : List Piece → List Piece → Prop where
  | last {pieces : List Piece} (h : Unbroken pieces) : Settles pieces pieces
  | line {line pieces settled : List Piece} (h : IsLine line) (more : Settles pieces settled) :
      Settles (line ++ pieces) (settleLine line ++ settled)

theorem Piece.isLineBreak_iff {x : Piece} :
    x.isLineBreak = true ↔ ∃ start, x = .char '\n' start := by
  cases x with
  | char c start => simp [isLineBreak]
  | tag mark => simp [isLineBreak]

theorem unbroken_nil : Unbroken [] := fun _ h => nomatch h

theorem unbroken_tag (mark : Mark) : Unbroken [.tag mark] := by
  intro x hx
  obtain rfl := List.mem_singleton.1 hx
  rfl

theorem unbroken_spread (start : Nat) {cs : List Char} (h : ∀ c ∈ cs, c ≠ '\n') :
    Unbroken (spread start cs) := by
  induction cs generalizing start with
  | nil => exact unbroken_nil
  | cons c cs ih =>
    intro x hx
    rcases List.mem_cons.1 hx with rfl | hx
    · simpa [Piece.isLineBreak] using h c List.mem_cons_self
    · exact ih _ (fun b hb => h b (List.mem_cons_of_mem _ hb)) x hx

theorem Unbroken.append {a b : List Piece} (ha : Unbroken a) (hb : Unbroken b) :
    Unbroken (a ++ b) :=
  fun x hx => (List.mem_append.1 hx).elim (ha x) (hb x)

theorem Unbroken.reverse {pieces : List Piece} (h : Unbroken pieces) : Unbroken pieces.reverse :=
  fun x hx => h x (List.mem_reverse.1 hx)

theorem settles_from {line : List Piece} (pieces : List Piece) (hline : Unbroken line) :
    Settles (line.reverse ++ pieces) (settleFrom line pieces) := by
  induction pieces generalizing line with
  | nil =>
    rw [settleFrom, List.append_nil]
    exact .last hline.reverse
  | cons x pieces ih =>
    rw [settleFrom]
    by_cases hx : x.isLineBreak = true
    · obtain ⟨start, rfl⟩ := Piece.isLineBreak_iff.1 hx
      have hwhole : IsLine (Piece.char '\n' start :: line).reverse :=
        ⟨line.reverse, start, List.reverse_cons, hline.reverse⟩
      have hmore : Settles pieces (settleFrom [] pieces) := ih unbroken_nil
      rw [if_pos hx]
      simpa using Settles.line hwhole hmore
    · have hnext : Unbroken (x :: line) := by
        intro y hy
        rcases List.mem_cons.1 hy with rfl | hy
        · simpa using hx
        · exact hline y hy
      rw [if_neg hx]
      simpa using ih hnext

/-- **A template is settled line by line.** -/
theorem settles (pieces : List Piece) : Settles pieces (settle pieces) := by
  simpa [settle] using settles_from pieces unbroken_nil

/-- Without line breaks everything is kept. -/
theorem settle_of_unbroken {pieces : List Piece} (h : Unbroken pieces) :
    settle pieces = pieces := by
  generalize hs : settle pieces = settled
  have hsettles := settles pieces
  rw [hs] at hsettles
  cases hsettles with
  | last => rfl
  | @line line pieces settled hline more =>
    obtain ⟨body, start, rfl, -⟩ := hline
    have hbreak := h (.char '\n' start) (by simp)
    cases hbreak

/-! ### What is kept -/

theorem settleLine_sublist (line : List Piece) : (settleLine line).Sublist line := by
  unfold settleLine
  split
  · exact List.filter_sublist
  · exact .refl line

namespace Settles

variable {pieces settled : List Piece}

/-- Nothing is added, and the order is kept. -/
theorem sublist (h : Settles pieces settled) : settled.Sublist pieces := by
  induction h with
  | last _ => exact .refl _
  | line _ _ ih => exact (settleLine_sublist _).append ih

/-- No tag is dropped. -/
theorem tagsOf_eq (h : Settles pieces settled) : tagsOf settled = tagsOf pieces := by
  induction h with
  | last _ => rfl
  | @line line pieces settled _ _ ih =>
    have hline : tagsOf (settleLine line) = tagsOf line := by
      unfold settleLine
      split
      · rw [tagsOf, tagsOf, List.filterMap_filter]
        congr 1
        funext x
        cases x <;> rfl
      · rfl
    rw [tagsOf_append, tagsOf_append, hline, ih]

end Settles

/-- A line that leaves no trace holds a tag, and its tags are what is kept. -/
theorem settleLine_of_standalone {line : List Piece} (h : standalone line = true) :
    settleLine line ≠ [] ∧ ∀ x ∈ settleLine line, x.isTag = true := by
  have hany : line.any Piece.isTag = true := by
    rw [standalone, Bool.and_eq_true] at h
    exact h.1
  obtain ⟨x, hx, htag⟩ := List.any_eq_true.1 hany
  rw [settleLine, if_pos h]
  exact ⟨List.ne_nil_of_mem (List.mem_filter.2 ⟨hx, htag⟩), fun y hy => (List.mem_filter.1 hy).2⟩

namespace Settles

variable {pieces settled : List Piece}

/-- What is kept starts with a tag or as the pieces do. -/
theorem head?_eq (h : Settles pieces settled) :
    (∀ x ∈ settled.head?, x.isTag = true) ∨ settled.head? = pieces.head? := by
  cases h with
  | last _ => exact .inr rfl
  | @line line pieces settled hline more =>
    by_cases hstandalone : standalone line = true
    · obtain ⟨hne, htags⟩ := settleLine_of_standalone hstandalone
      refine .inl fun x hx => htags x ?_
      rw [List.head?_append_of_ne_nil _ hne] at hx
      exact List.mem_of_mem_head? hx
    · obtain ⟨body, start, rfl, -⟩ := hline
      rw [settleLine, if_neg hstandalone]
      exact .inr (by cases body <;> rfl)

/-- **No gap is left between two characters.** -/
theorem glued (h : Settles pieces settled) (hpieces : Glued pieces) : Glued settled := by
  induction h with
  | last _ => exact hpieces
  | @line line pieces settled hline more ih =>
    obtain ⟨hlineGlued, hmore, hjoin⟩ := List.isChain_append.1 hpieces
    by_cases hstandalone : standalone line = true
    · have htags := (settleLine_of_standalone hstandalone).2
      refine List.isChain_append.2 ⟨?_, ih hmore, fun x hx _ _ => ?_⟩
      · exact (List.pairwise_of_forall_mem_list fun x hx _ _ => .inl (htags x hx)).isChain
      · exact .inl (htags x (List.mem_of_getLast? hx))
    · rw [settleLine, if_neg hstandalone]
      refine List.isChain_append.2 ⟨hlineGlued, ih hmore, fun x hx y hy => ?_⟩
      rcases more.head?_eq with htag | hsame
      · exact .inr (.inl (htag y hy))
      · exact hjoin x hx y (hsame ▸ hy)

/-- Without tags everything is kept. -/
theorem eq_of_tagsOf_eq_nil (h : Settles pieces settled) (htags : tagsOf pieces = []) :
    settled = pieces := by
  induction h with
  | last _ => rfl
  | @line line pieces settled hline _ ih =>
    rw [tagsOf_append, List.append_eq_nil_iff] at htags
    have hstandalone : ¬ standalone line = true := by
      intro hstandalone
      obtain ⟨hne, hkept⟩ := settleLine_of_standalone hstandalone
      obtain ⟨x, hx⟩ := List.exists_mem_of_ne_nil _ hne
      cases x with
      | char c start => exact nomatch hkept _ hx
      | tag mark =>
        have hmem := mem_tagsOf.2 ((settleLine_sublist line).subset hx)
        rw [htags.1] at hmem
        cases hmem
    rw [ih htags.2, settleLine, if_neg hstandalone]

end Settles

/-! ### What a line drops, by its place -/

/-- No line break outside tags separates the offsets. A line break belongs to the line that it
ends. -/
def SameLine (pieces : List Piece) (p q : Nat) : Prop :=
  ∀ b, .char '\n' b ∈ pieces → (b < p ↔ b < q)

/-- The line of the offset leaves no trace: it ends in a line break, holds a tag, and holds nothing
but blanks and tags that write no value. -/
def Traceless (pieces : List Piece) (p : Nat) : Prop :=
  (∃ b, .char '\n' b ∈ pieces ∧ p ≤ b) ∧
  (∃ mark, .tag mark ∈ pieces ∧ SameLine pieces p mark.span.start) ∧
  ∀ x ∈ pieces, SameLine pieces p x.span.start → x.isUnobtrusive = true

/-- The pieces stand in the order of their places. -/
def Ordered (pieces : List Piece) : Prop :=
  pieces.Pairwise fun x y => x.span.start < y.span.start

theorem Tiles.ordered {a b : Nat} {pieces : List Piece} (h : Tiles a pieces b) :
    Ordered pieces :=
  h.pairwise.imp_of_mem fun hx _ hle => Nat.lt_of_lt_of_le (h.bounds hx).2.1 hle

/-- The last piece stands behind all others. -/
theorem Ordered.start_le_last {pieces : List Piece} {last : Piece}
    (h : Ordered (pieces ++ [last])) {x : Piece} (hx : x ∈ pieces ++ [last]) :
    x.span.start ≤ last.span.start := by
  rcases List.mem_append.1 hx with hx | hx
  · exact Nat.le_of_lt ((List.pairwise_append.1 h).2.2 x hx last List.mem_cons_self)
  · obtain rfl := List.mem_singleton.1 hx
    exact Nat.le_refl _

section Line

variable {before line after : List Piece} (hordered : Ordered (before ++ (line ++ after)))
  (hbefore : ∀ y ∈ before.getLast?, y.isLineBreak = true) (hline : IsLine line) {x : Piece}
  (hx : x ∈ line)
include hordered hbefore hline hx

/-- What lies on the same line is what the line holds. -/
theorem sameLine_iff {y : Piece} (hy : y ∈ before ++ (line ++ after)) :
    SameLine (before ++ (line ++ after)) x.span.start y.span.start ↔ y ∈ line := by
  obtain ⟨hbeforeOrdered, hrest, hbeforeRest⟩ := List.pairwise_append.1 hordered
  obtain ⟨body, stop, rfl, hbody⟩ := hline
  obtain ⟨hlineOrdered, -, hlineAfter⟩ := List.pairwise_append.1 hrest
  have hle : ∀ z ∈ body ++ [.char '\n' stop], z.span.start ≤ stop :=
    fun z hz => Ordered.start_le_last hlineOrdered hz
  have hxstop := hle x hx
  constructor
  · intro hsame
    rcases List.mem_append.1 hy with hy | hy
    · -- the line break before the line separates the two
      obtain ⟨init, z, rfl⟩ := (List.eq_nil_or_concat' before).resolve_left (List.ne_nil_of_mem hy)
      obtain ⟨b, rfl⟩ := Piece.isLineBreak_iff.1 (hbefore z (by simp))
      have hbx := hbeforeRest (.char '\n' b) (by simp) x (List.mem_append_left _ hx)
      have hyb : y.span.start ≤ b := Ordered.start_le_last hbeforeOrdered hy
      exact absurd ((hsame b (by simp)).1 hbx) (Nat.not_lt.2 hyb)
    · rcases List.mem_append.1 hy with hy | hy
      · exact hy
      · -- the line break at the end of the line separates the two
        have hstopy := hlineAfter (.char '\n' stop) (by simp) y hy
        exact absurd ((hsame stop (by simp)).2 hstopy) (Nat.not_lt.2 hxstop)
  · intro hyline b hb
    have hystop := hle y hyline
    rcases List.mem_append.1 hb with hb | hb
    · have hbx := hbeforeRest _ hb x (List.mem_append_left _ hx)
      have hby := hbeforeRest _ hb y (List.mem_append_left _ hyline)
      exact iff_of_true hbx hby
    · have hstopb : stop ≤ b := by
        rcases List.mem_append.1 hb with hb | hb
        · rcases List.mem_append.1 hb with hb | hb
          · exact absurd (hbody _ hb) (by simp [Piece.isLineBreak])
          · cases List.mem_singleton.1 hb
            exact Nat.le_refl _
        · exact Nat.le_of_lt (hlineAfter (.char '\n' stop) (by simp) _ hb)
      exact iff_of_false (by omega) (by omega)

/-- A line leaves no trace if its pieces say so. -/
theorem traceless_iff_standalone :
    Traceless (before ++ (line ++ after)) x.span.start ↔ standalone line = true := by
  have hsame {y : Piece} (hy : y ∈ before ++ (line ++ after)) :=
    sameLine_iff hordered hbefore hline hx hy
  have hmem {y : Piece} (hy : y ∈ line) : y ∈ before ++ (line ++ after) :=
    List.mem_append_right _ (List.mem_append_left _ hy)
  rw [standalone, Bool.and_eq_true, List.any_eq_true, List.all_eq_true]
  constructor
  · rintro ⟨-, ⟨mark, hmark, hon⟩, hall⟩
    refine ⟨⟨.tag mark, (hsame hmark).1 hon, rfl⟩, fun y hy => ?_⟩
    exact hall y (hmem hy) ((hsame (hmem hy)).2 hy)
  · rintro ⟨⟨y, hy, htag⟩, hall⟩
    refine ⟨?_, ?_, fun y hy hon => hall y ((hsame hy).1 hon)⟩
    · obtain ⟨body, stop, rfl, -⟩ := hline
      have hlineOrdered := (List.pairwise_append.1 (List.pairwise_append.1 hordered).2.1).1
      exact ⟨stop, by simp, Ordered.start_le_last hlineOrdered hx⟩
    · cases y with
      | char c start => cases htag
      | tag mark => exact ⟨mark, hmem hy, (hsame (hmem hy)).2 hy⟩

end Line

/-- Behind the pieces of other lines, a character is dropped if its line leaves no trace. -/
theorem Settles.mem_iff {pieces settled : List Piece} (h : Settles pieces settled)
    {before : List Piece} (hordered : Ordered (before ++ pieces))
    (hbefore : ∀ y ∈ before.getLast?, y.isLineBreak = true) {c : Char} {p : Nat}
    (hc : .char c p ∈ pieces) :
    .char c p ∈ settled ↔ ¬ Traceless (before ++ pieces) p := by
  -- line by line; the lines that are done go over to `before`, so the whole stays the same
  induction h generalizing before with
  | @last pieces hpieces =>
    refine iff_of_true hc ?_
    rintro ⟨⟨b, hb, hpb⟩, -⟩
    rcases List.mem_append.1 hb with hb | hb
    · have hlt : b < p := (List.pairwise_append.1 hordered).2.2 _ hb _ hc
      omega
    · exact absurd (hpieces _ hb) (by simp [Piece.isLineBreak])
  | @line line pieces settled hline more ih =>
    have hdisjoint : ∀ x ∈ line, x ∉ pieces := by
      intro x hx hmem
      have hlt := (List.pairwise_append.1 (List.pairwise_append.1 hordered).2.1).2.2 x hx x hmem
      exact Nat.lt_irrefl _ hlt
    rw [List.mem_append]
    rcases List.mem_append.1 hc with hc | hc
    · have htrace := traceless_iff_standalone hordered hbefore hline hc
      simp only [Piece.span] at htrace
      have hsettled : .char c p ∉ settled := fun hmem => hdisjoint _ hc (more.sublist.subset hmem)
      rw [htrace, or_iff_left hsettled, settleLine]
      split
      · rename_i hstandalone
        refine iff_of_false (fun hmem => ?_) (not_not_intro hstandalone)
        exact Bool.false_ne_true (List.mem_filter.1 hmem).2
      · rename_i hstandalone
        exact iff_of_true hc hstandalone
    · have hline' : .char c p ∉ settleLine line :=
        fun hmem => hdisjoint _ ((settleLine_sublist line).subset hmem) hc
      rw [or_iff_right hline', ← List.append_assoc]
      refine ih (by rwa [List.append_assoc]) ?_ hc
      obtain ⟨body, stop, rfl, -⟩ := hline
      intro y hy
      rw [← List.append_assoc, List.getLast?_append_of_ne_nil _ (by simp)] at hy
      cases hy
      rfl

/-- **A character is kept unless its line leaves no trace.** -/
theorem mem_settle_iff {a b : Nat} {pieces : List Piece} (h : Tiles a pieces b) {c : Char} {p : Nat}
    (hc : .char c p ∈ pieces) : .char c p ∈ settle pieces ↔ ¬ Traceless pieces p :=
  @Settles.mem_iff _ _ (settles pieces) [] h.ordered nofun c p hc

end LiveTable.Template
