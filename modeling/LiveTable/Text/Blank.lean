/-!
# Blank characters

Templates, sort declarations, search queries and numbers ignore blank characters in places.
The objects of this module:

* `isBlank c`: `c` has the Unicode property `White_Space`;
* `trimStart`, `trimEnd`, `trim`: a text without the blanks at its ends;
* `splitWhere p`: the parts of a text between the characters that satisfy `p`;
* `words`: the non-empty parts of a text between its blanks.
-/

namespace LiveTable.Text

/-- The characters with the Unicode property `White_Space`. -/
def isBlank (c : Char) : Bool :=
  let n := c.toNat
  (0x09 ≤ n && n ≤ 0x0D) || n == 0x20 || n == 0x85 || n == 0xA0 || n == 0x1680 ||
    (0x2000 ≤ n && n ≤ 0x200A) || n == 0x2028 || n == 0x2029 || n == 0x202F ||
    n == 0x205F || n == 0x3000

/-- The text without its leading blanks. -/
def trimStart (cs : List Char) : List Char := cs.dropWhile isBlank

/-- The text without its trailing blanks. -/
def trimEnd : List Char → List Char
  | [] => []
  | c :: cs =>
    match trimEnd cs with
    | [] => if isBlank c then [] else [c]
    | rest => c :: rest

/-- Characters without the last blanks still start as they did. -/
theorem trimEnd_cons (c : Char) (cs : List Char) :
    trimEnd (c :: cs) = if trimEnd cs = [] ∧ isBlank c = true then [] else c :: trimEnd cs := by
  rw [trimEnd]
  split
  · next h => by_cases hc : isBlank c = true <;> simp [h, hc]
  · next h => rw [if_neg fun hand => h hand.1]

theorem trimEnd_of_blank {cs : List Char} (h : ∀ c ∈ cs, isBlank c = true) : trimEnd cs = [] := by
  induction cs with
  | nil => rfl
  | cons c cs ih =>
    rw [trimEnd_cons, ih fun d hd => h d (List.mem_cons_of_mem _ hd),
      if_pos ⟨rfl, h c List.mem_cons_self⟩]

/-- Blanks at the end do not matter. -/
theorem trimEnd_append_of_blank (cs : List Char) {blanks : List Char}
    (h : ∀ c ∈ blanks, isBlank c = true) : trimEnd (cs ++ blanks) = trimEnd cs := by
  induction cs with
  | nil => exact trimEnd_of_blank h
  | cons c cs ih => rw [List.cons_append, trimEnd_cons, trimEnd_cons, ih]

/-- What does not end in a blank is left as it is. -/
theorem trimEnd_of_getLast? {cs : List Char} (h : ∀ c ∈ cs.getLast?, isBlank c = false) :
    trimEnd cs = cs := by
  induction cs with
  | nil => rfl
  | cons c cs ih =>
    cases cs with
    | nil => rw [trimEnd_cons, if_neg fun hand => by simp [h c rfl] at hand]; rfl
    | cons d cs =>
      rw [List.getLast?_cons_cons] at h
      rw [trimEnd_cons, ih h, if_neg fun hand => List.cons_ne_nil _ _ hand.1]

/-- The blanks that `trimEnd` takes away. -/
theorem exists_trimEnd_append (cs : List Char) :
    ∃ blanks, cs = trimEnd cs ++ blanks ∧ ∀ c ∈ blanks, isBlank c = true := by
  induction cs with
  | nil => exact ⟨[], rfl, by simp⟩
  | cons c cs ih =>
    obtain ⟨blanks, hcs, hblanks⟩ := ih
    rw [trimEnd_cons]
    by_cases h : trimEnd cs = [] ∧ isBlank c = true
    · rw [if_pos h]
      rw [h.1, List.nil_append] at hcs
      refine ⟨c :: blanks, by rw [← hcs, List.nil_append], ?_⟩
      simpa [h.2] using hblanks
    · rw [if_neg h]
      exact ⟨blanks, by rw [List.cons_append, ← hcs], hblanks⟩

/-- The text without the blanks at either end. -/
def trimChars (cs : List Char) : List Char := trimEnd (trimStart cs)

/-- The text without the blanks at either end. -/
def trim (s : String) : String := String.ofList (trimChars s.toList)

/-- The parts of a text between the characters that satisfy `p`: one more part than there are
such characters. -/
def splitWhere (p : Char → Bool) : List Char → List (List Char)
  | [] => [[]]
  | c :: cs =>
    if p c then [] :: splitWhere p cs
    else
      match splitWhere p cs with
      | [] => [[c]]
      | part :: parts => (c :: part) :: parts

theorem splitWhere_of_forall {p : Char → Bool} {cs : List Char} (h : ∀ c ∈ cs, p c = false) :
    splitWhere p cs = [cs] := by
  induction cs with
  | nil => rfl
  | cons c cs ih =>
    have hc : p c = false := h c List.mem_cons_self
    simp [splitWhere, hc, ih fun d hd => h d (List.mem_cons_of_mem _ hd)]

/-- The first part ends at the first character that satisfies `p`. -/
theorem splitWhere_append_cons {p : Char → Bool} {cs : List Char} {c : Char} (more : List Char)
    (h : ∀ c ∈ cs, p c = false) (hc : p c = true) :
    splitWhere p (cs ++ c :: more) = cs :: splitWhere p more := by
  induction cs with
  | nil => simp [splitWhere, hc]
  | cons d cs ih =>
    have hd : p d = false := h d List.mem_cons_self
    simp [splitWhere, hd, ih fun e he => h e (List.mem_cons_of_mem _ he)]

/-- The parts of `s` between the occurrences of the character `c`. -/
def splitAt (c : Char) (s : String) : List String :=
  (splitWhere (· == c) s.toList).map String.ofList

/-- The non-empty parts of a text between its blanks. -/
def words (cs : List Char) : List (List Char) :=
  (splitWhere isBlank cs).filter (fun part => !part.isEmpty)

end LiveTable.Text
