/-!
# Texts inside HTML

Six characters have a meaning in HTML text or in an attribute value and are written as entities.

* `entity? c`: the entity that stands for `c`, if there is one;
* `escapeChars`, `escape`: a text with every such character written as its entity.
-/

namespace LiveTable.Html

/-- The entity that stands for a character with a meaning in HTML. -/
def entity? : Char → Option (List Char)
  | '&' => some ['&', 'a', 'm', 'p', ';']
  | '<' => some ['&', 'l', 't', ';']
  | '>' => some ['&', 'g', 't', ';']
  | '"' => some ['&', 'q', 'u', 'o', 't', ';']
  | '\'' => some ['&', '#', '3', '9', ';']
  | '/' => some ['&', '#', 'x', '2', 'F', ';']
  | _ => none

/-- One character as HTML text. -/
def escapeChar (c : Char) : List Char := (entity? c).getD [c]

/-- The characters as HTML text. -/
def escapeChars (cs : List Char) : List Char := cs.flatMap escapeChar

/-- The text as HTML text, also inside a quoted attribute value. -/
def escape (s : String) : String := String.ofList (escapeChars s.toList)

@[simp] theorem escapeChars_nil : escapeChars [] = [] := rfl

@[simp] theorem escapeChars_cons (c : Char) (cs : List Char) :
    escapeChars (c :: cs) = escapeChar c ++ escapeChars cs := by
  simp [escapeChars]

@[simp] theorem escapeChars_append (a b : List Char) :
    escapeChars (a ++ b) = escapeChars a ++ escapeChars b := by
  simp [escapeChars]

end LiveTable.Html
