import LiveTable.Template.Fault
import LiveTable.Template.Tag

/-!
# Marks

A template read from left to right is a list of marks: texts, tags that stand alone, and the
opening and closing tags of sections.

* `Leaf`: what a mark without an inside is;
* `Mark`: a mark with its place;
* `Mark.ofTag`: the mark of a tag as written;
* `Mark.delimitersAfter`: the delimiters in force after a mark.
-/

namespace LiveTable.Template

/-- A part of a template without an inside. -/
inductive Leaf where
  /-- Text that is copied. -/
  | text (s : String)
  /-- A remark that writes nothing. -/
  | comment (s : String)
  /-- The value of a name, escaped for HTML. -/
  | escaped (name : String)
  /-- The value of a name as it is. -/
  | raw (name : String)
  /-- Another template, by its name. -/
  | partialRef (name : String)
  /-- A change of the delimiters for all that follows. -/
  | delimiters (d : Delimiters)
  deriving DecidableEq

/-- A part of a template as met from left to right. -/
inductive Mark where
  | leaf (leaf : Leaf) (span : Span)
  | opening (inverted : Bool) (name : String) (span : Span)
  | closing (name : String) (span : Span)
  deriving DecidableEq

namespace Mark

/-- The place of a mark. -/
def span : Mark → Span
  | leaf _ span => span
  | opening _ _ span => span
  | closing _ span => span

/-- The mark of a tag as written. New delimiters have to be two words. -/
def ofTag (t : Tag) (span : Span) : Except Fault Mark :=
  let value := String.ofList t.value
  match t.sigil with
  | none => .ok (.leaf (.escaped value) span)
  | some .braced => .ok (.leaf (.raw value) span)
  | some .unescaped => .ok (.leaf (.raw value) span)
  | some .partialRef => .ok (.leaf (.partialRef value) span)
  | some .comment => .ok (.leaf (.comment value) span)
  | some .opening => .ok (.opening false value span)
  | some .inverted => .ok (.opening true value span)
  | some .closing => .ok (.closing value span)
  | some .delimiters =>
    match Delimiters.read? t.value with
    | some d => .ok (.leaf (.delimiters d) span)
    | none => .error (.malformedDelimiters value (some span))

/-- The delimiters in force after a mark. -/
def delimitersAfter (d : Delimiters) : Mark → Delimiters
  | leaf (.delimiters d') _ => d'
  | _ => d

/-- The tag writes a value into the line in which it stands. -/
def isValue : Mark → Bool
  | leaf (.escaped _) _ => true
  | leaf (.raw _) _ => true
  | _ => false

end Mark

end LiveTable.Template
