import LiveTable.Text.Bytes

/-!
# Faults of templates

The ways in which a text fails to be a template, each with the place of the tag at fault. Data that
is missing when a template is rendered is never a fault.

* `Fault`: what is wrong, with `message`, `help` and `code` for the reader;
* `Source`: a template text with the name under which faults in it are reported;
* `SyntaxError`: a fault with its source.
-/

namespace LiveTable.Template

/-- What is wrong with a template. -/
inductive Fault where
  /-- Delimiters that are not two words; without a place if they came from outside the text. -/
  | malformedDelimiters (found : String) (span : Option Span)
  /-- A tag without its closing delimiter, given up at the offset `position`. -/
  | unclosedTag (position : Nat) (closing : String) (span : Span)
  /-- A closing tag that does not name the innermost open section, whose name is `expected`. -/
  | unmatchedSection (name : String) (expected : Option String) (span : Span)
  /-- A section that is open at the end of the text. -/
  | unclosedSection (name : String) (span : Span)
  deriving DecidableEq, Repr

namespace Fault

/-- The place of the tag at fault. -/
def span? : Fault → Option Span
  | malformedDelimiters _ span => span
  | unclosedTag _ _ span => some span
  | unmatchedSection _ _ span => some span
  | unclosedSection _ span => some span

/-- One line that says what is wrong. -/
def message : Fault → String
  | malformedDelimiters found _ => "Invalid tags: " ++ found
  | unclosedTag position _ _ => "Unclosed tag at " ++ toString position
  | unmatchedSection name _ _ => "Unmatched section close `" ++ name ++ "`"
  | unclosedSection name _ => "Unclosed section `" ++ name ++ "`"

/-- One line that says how to mend it. -/
def help : Fault → String
  | malformedDelimiters _ _ =>
    "Delimiters are exactly two tags separated by whitespace, e.g. `<% %>`"
  | unclosedTag _ closing _ => "Add `" ++ closing ++ "` to close this tag"
  | unmatchedSection _ (some expected) _ => "The innermost open section is `" ++ expected ++ "`"
  | unmatchedSection name none _ => "No section named `" ++ name ++ "` is open here"
  | unclosedSection name _ => "Add a matching close tag for `" ++ name ++ "`"

/-- The stable name of the kind of fault. -/
def code : Fault → String
  | malformedDelimiters _ _ => "stache::syntax::malformed_delimiter"
  | unclosedTag _ _ _ => "stache::syntax::unclosed_tag"
  | unmatchedSection _ _ _ => "stache::syntax::unmatched_section"
  | unclosedSection _ _ => "stache::syntax::unclosed_section"

end Fault

/-- A template text with the name under which faults in it are reported. -/
structure Source where
  name : String
  text : String
  deriving DecidableEq, Repr

/-- A fault with the source in which it lies. -/
structure SyntaxError where
  fault : Fault
  source : Source
  deriving DecidableEq, Repr

end LiveTable.Template
