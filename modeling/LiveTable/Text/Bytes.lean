/-!
# Byte offsets

Places in a text are counted in bytes of its UTF-8 form.

* `Span`: a stretch of a text, from one offset up to another;
* `Span.Covers s p`: the offset `p` lies in the span;
* `byteSize cs`: the number of bytes of a list of characters;
* `dropBytes? n cs`, `takeBytes? n cs`: the text after and before the offset `n`, if it lies
  between two characters;
* `slice? span cs`: the text of a span.
-/

namespace LiveTable

/-- A stretch of a text, from the offset `start` up to the offset `stop`. -/
structure Span where
  start : Nat
  stop : Nat
  deriving DecidableEq, Repr

/-- The offset lies in the span. -/
def Span.Covers (s : Span) (p : Nat) : Prop := s.start ≤ p ∧ p < s.stop

namespace Text

/-- The number of bytes of a list of characters in UTF-8. -/
def byteSize : List Char → Nat
  | [] => 0
  | c :: cs => c.utf8Size + byteSize cs

@[simp] theorem byteSize_nil : byteSize [] = 0 := rfl

@[simp] theorem byteSize_cons (c : Char) (cs : List Char) :
    byteSize (c :: cs) = c.utf8Size + byteSize cs := rfl

@[simp] theorem byteSize_append (a b : List Char) :
    byteSize (a ++ b) = byteSize a + byteSize b := by
  induction a with
  | nil => simp
  | cons c a ih => simp [ih, Nat.add_assoc]

/-- A text that is not empty has bytes. -/
theorem byteSize_pos {cs : List Char} (h : cs ≠ []) : 0 < byteSize cs := by
  cases cs with
  | nil => exact absurd rfl h
  | cons c cs => exact Nat.add_pos_left c.utf8Size_pos _

/-- The text after the offset `n`, if it lies between two characters. -/
def dropBytes? (n : Nat) : List Char → Option (List Char)
  | [] => if n = 0 then some [] else none
  | c :: cs =>
    if n = 0 then some (c :: cs)
    else if c.utf8Size ≤ n then dropBytes? (n - c.utf8Size) cs
    else none

/-- The text before the offset `n`, if it lies between two characters. -/
def takeBytes? (n : Nat) (cs : List Char) : Option (List Char) :=
  (dropBytes? n cs).map fun rest => cs.take (cs.length - rest.length)

/-- The text of a span whose ends lie between characters. -/
def slice? (span : Span) (cs : List Char) : Option (List Char) :=
  if span.start ≤ span.stop then
    (dropBytes? span.start cs).bind (takeBytes? (span.stop - span.start))
  else none

/-- Dropping the bytes of a beginning leaves the rest. -/
@[simp] theorem dropBytes?_append (a b : List Char) :
    dropBytes? (byteSize a) (a ++ b) = some b := by
  induction a with
  | nil => cases b <;> simp [dropBytes?]
  | cons c a ih =>
    have hc := c.utf8Size_pos
    simp only [List.cons_append, byteSize_cons, dropBytes?]
    rw [if_neg (by omega), if_pos (by omega), Nat.add_sub_cancel_left, ih]

/-- Taking the bytes of a beginning gives it back. -/
@[simp] theorem takeBytes?_append (a b : List Char) :
    takeBytes? (byteSize a) (a ++ b) = some a := by
  simp [takeBytes?]

/-- An offset between two characters is the size of the text before it. -/
theorem dropBytes?_eq_some_iff {n : Nat} {cs rest : List Char} :
    dropBytes? n cs = some rest ↔ ∃ front, cs = front ++ rest ∧ byteSize front = n := by
  constructor
  · intro h
    induction cs generalizing n with
    | nil =>
      simp only [dropBytes?] at h
      split at h
      · cases h
        exact ⟨[], rfl, by simp [*]⟩
      · cases h
    | cons c cs ih =>
      simp only [dropBytes?] at h
      split at h
      · cases h
        exact ⟨[], rfl, by simp [*]⟩
      · split at h
        · obtain ⟨front, hfront, hsize⟩ := ih h
          exact ⟨c :: front, by rw [hfront]; rfl, by rw [byteSize_cons, hsize]; omega⟩
        · cases h
  · rintro ⟨front, rfl, rfl⟩
    exact dropBytes?_append front rest

/-- A text has one beginning of each size. -/
theorem append_inj_of_byteSize {a b a' b' : List Char} (h : a ++ b = a' ++ b')
    (hsize : byteSize a = byteSize a') : a = a' ∧ b = b' := by
  have hdrop := dropBytes?_append a b
  rw [h, hsize, dropBytes?_append] at hdrop
  obtain rfl := Option.some.inj hdrop
  exact ⟨List.append_cancel_right h, rfl⟩

/-- Of two beginnings of a text the shorter one is a beginning of the other. -/
theorem exists_append_of_byteSize_le {a b a' b' : List Char} (h : a ++ b = a' ++ b')
    (hsize : byteSize a ≤ byteSize a') : ∃ between, a' = a ++ between := by
  rcases List.append_eq_append_iff.1 h with ⟨between, ha', -⟩ | ⟨between, ha, hb'⟩
  · exact ⟨between, ha'⟩
  · have hbetween : between = [] := by
      cases between with
      | nil => rfl
      | cons c between =>
        have hc := c.utf8Size_pos
        rw [ha, byteSize_append, byteSize_cons] at hsize
        omega
    rw [hbetween, List.append_nil] at ha
    exact ⟨[], by rw [ha, List.append_nil]⟩

/-- The text of a span is what stands there. -/
theorem slice?_append (front cs back : List Char) :
    slice? ⟨byteSize front, byteSize front + byteSize cs⟩ (front ++ (cs ++ back)) = some cs := by
  simp [slice?]

/-- Between two offsets that lie between characters there is a text. -/
theorem exists_slice? {source front back front' back' : List Char} (h : source = front ++ back)
    (h' : source = front' ++ back') (hle : byteSize front ≤ byteSize front') :
    ∃ cs, slice? ⟨byteSize front, byteSize front'⟩ source = some cs := by
  obtain ⟨between, rfl⟩ := exists_append_of_byteSize_le (h.symm.trans h') hle
  refine ⟨between, ?_⟩
  rw [h', byteSize_append, List.append_assoc, slice?_append]

end Text

end LiveTable
