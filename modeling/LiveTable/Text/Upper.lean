import LiveTable.Text.UpperTable

/-!
# Upper case

The search index compares texts in upper case. Every character is mapped on its own and some
become several characters (`ß` becomes `SS`).

* `upperChar c`: the upper case of one character;
* `upper s`: the upper case of a text, character by character.
-/

namespace LiveTable.Text

/-- The upper case of one character. -/
def upperChar (c : Char) : List Char :=
  let n := c.toNat
  if n < 0x80 then [c.toUpper]
  else
    match upperExpansions.lookup n with
    | some expansion => expansion.map Char.ofNat
    | none => [Char.ofNat (partnerIn upperRuns n)]

/-- The upper case of a list of characters. -/
def upperChars (cs : List Char) : List Char := cs.flatMap upperChar

/-- The upper case of a text. -/
def upper (s : String) : String := String.ofList (upperChars s.toList)

/-- Each character is mapped on its own. -/
@[simp] theorem upperChars_append (a b : List Char) :
    upperChars (a ++ b) = upperChars a ++ upperChars b := by
  simp [upperChars]

end LiveTable.Text
