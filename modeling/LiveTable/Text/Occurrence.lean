/-!
# Occurrences

* `occursIn needle text`: `needle` stands somewhere in `text`, character for character.
-/

namespace LiveTable.Text

/-- The characters `needle` stand somewhere in the text. -/
def occursIn (needle : List Char) : List Char → Bool
  | [] => needle.isEmpty
  | c :: cs => needle.isPrefixOf (c :: cs) || occursIn needle cs

theorem occursIn_iff {needle text : List Char} :
    occursIn needle text = true ↔ needle <:+: text := by
  induction text with
  | nil => simp [occursIn]
  | cons c cs ih => simp [occursIn, ih, List.infix_cons_iff]

end LiveTable.Text
