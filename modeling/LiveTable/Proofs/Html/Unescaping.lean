import LiveTable.Proofs.Html.Entities
import LiveTable.Table.Markup

/-!
# Reading escaped texts back

A reader of HTML who puts the character in the place of each entity gets the text that was escaped,
whatever the text was: one that is full of entities already comes back with them. And whoever reads
the tag in which the text stands finds it whole, as the value of its attribute.

* `unescapeChars`, `unescape`: a text with the character in the place of each of the six entities;
* `unescapeChars_escapeChars`: what escaping wrote is read back;
* `TagReader`, `TagReader.step`: a reader of a start tag, and what one more character tells it;
* `readTag?`: the start tag that a text is;
* `foldlM_step_value`: a value without quotation marks is read to its end;
* `Lossless`: what is so of an escaped text;
* `lossless_escape`: it is so of every text, and of the query in the search box.
-/

namespace LiveTable.Html

/-! ### Entities read from left to right -/

/-- The characters with the character in the place of each entity, read from left to right. What is
none of the six entities stays as it is. -/
def unescapeChars : List Char → List Char
  | '&' :: 'a' :: 'm' :: 'p' :: ';' :: cs => '&' :: unescapeChars cs
  | '&' :: 'l' :: 't' :: ';' :: cs => '<' :: unescapeChars cs
  | '&' :: 'g' :: 't' :: ';' :: cs => '>' :: unescapeChars cs
  | '&' :: 'q' :: 'u' :: 'o' :: 't' :: ';' :: cs => '"' :: unescapeChars cs
  | '&' :: '#' :: '3' :: '9' :: ';' :: cs => '\'' :: unescapeChars cs
  | '&' :: '#' :: 'x' :: '2' :: 'F' :: ';' :: cs => '/' :: unescapeChars cs
  | c :: cs => c :: unescapeChars cs
  | [] => []

/-- The text with the character in the place of each entity. -/
def unescape (s : String) : String := String.ofList (unescapeChars s.toList)

/-- No entity starts with any other character than the ampersand. -/
theorem unescapeChars_cons {c : Char} (h : c ≠ '&') (cs : List Char) :
    unescapeChars (c :: cs) = c :: unescapeChars cs := by
  rw [unescapeChars.eq_def]
  split <;> simp_all

/-- An entity is read as its character, whatever follows. -/
theorem unescapeChars_entity {c : Char} {entity : List Char} (h : entity? c = some entity)
    (cs : List Char) : unescapeChars (entity ++ cs) = c :: unescapeChars cs := by
  unfold entity? at h
  split at h <;> cases h <;> simp only [List.cons_append, List.nil_append, unescapeChars]

theorem unescapeChars_escapeChar (c : Char) (cs : List Char) :
    unescapeChars (escapeChar c ++ cs) = c :: unescapeChars cs := by
  unfold escapeChar
  cases hentity : entity? c with
  | some entity => exact unescapeChars_entity hentity cs
  | none =>
    have hc : c ≠ '&' := by
      rintro rfl
      cases hentity
    exact unescapeChars_cons hc cs

/-- **What escaping wrote is read back.** -/
theorem unescapeChars_escapeChars (cs : List Char) : unescapeChars (escapeChars cs) = cs := by
  induction cs with
  | nil => rfl
  | cons c cs ih => rw [escapeChars_cons, unescapeChars_escapeChar, ih]

theorem unescape_escape (s : String) : unescape (escape s) = s := by
  rw [unescape, toList_escape, unescapeChars_escapeChars, String.ofList_toList]

theorem escape_append (s t : String) : escape (s ++ t) = escape s ++ escape t := by
  rw [escape, String.toList_append, escapeChars_append, String.ofList_append]
  rfl

theorem escape_injective : Function.Injective escape :=
  Function.LeftInverse.injective unescape_escape

/-! ### Start tags -/

/-- The attributes of a tag, each with its value as written. -/
abbrev Attributes := List (List Char × List Char)

/-- Where a reader of a start tag is, and what it has read so far. -/
inductive TagReader where
  | outside
  | inName (tag : List Char)
  | between (tag : List Char) (attributes : Attributes)
  | inAttribute (tag : List Char) (attributes : Attributes) (name : List Char)
  /-- Behind the equals sign. -/
  | beforeValue (tag : List Char) (attributes : Attributes) (name : List Char)
  | inValue (tag : List Char) (attributes : Attributes) (name value : List Char)
  | closed (tag : List Char) (attributes : Attributes)
  deriving DecidableEq

/-- What one more character tells the reader. A value stands between quotation marks and ends at the
second one, whatever follows; nothing follows the end of the tag. -/
def TagReader.step : TagReader → Char → Option TagReader
  | outside, c => if c = '<' then some (inName []) else none
  | inName tag, c =>
    if c = ' ' then some (inAttribute tag [] [])
    else if c = '>' then some (closed tag [])
    else some (inName (tag ++ [c]))
  | between tag attributes, c =>
    if c = ' ' then some (inAttribute tag attributes [])
    else if c = '>' then some (closed tag attributes)
    else none
  | inAttribute tag attributes name, c =>
    if c = '=' then some (beforeValue tag attributes name)
    else if c = '>' then none
    else some (inAttribute tag attributes (name ++ [c]))
  | beforeValue tag attributes name, c =>
    if c = '"' then some (inValue tag attributes name []) else none
  | inValue tag attributes name value, c =>
    if c = '"' then some (between tag (attributes ++ [(name, value)]))
    else some (inValue tag attributes name (value ++ [c]))
  | closed _ _, _ => none

/-- The start tag that a text is: its name and its attributes. -/
def readTag? (cs : List Char) : Option (List Char × Attributes) :=
  match cs.foldlM TagReader.step .outside with
  | some (.closed tag attributes) => some (tag, attributes)
  | _ => none

/-- **A value without quotation marks is read to its end.** -/
theorem foldlM_step_value (tag : List Char) (attributes : Attributes) (name value : List Char)
    {cs : List Char} (h : '"' ∉ cs) :
    cs.foldlM TagReader.step (.inValue tag attributes name value) =
      some (.inValue tag attributes name (value ++ cs)) := by
  induction cs generalizing value with
  | nil =>
    rw [List.append_nil]
    rfl
  | cons c cs ih =>
    rw [List.mem_cons, not_or] at h
    have hstep : TagReader.step (.inValue tag attributes name value) c =
        some (.inValue tag attributes name (value ++ [c])) := if_neg fun hc => h.1 hc.symm
    rw [List.foldlM_cons, hstep, Option.bind_eq_bind, Option.bind_some, ih _ h.2,
      List.append_assoc, List.singleton_append]

/-- **A tag whose last value has no quotation marks ends where it should.** -/
theorem readTag?_append {front tag name value : List Char} {attributes : Attributes}
    (hfront : front.foldlM TagReader.step .outside = some (.inValue tag attributes name []))
    (hvalue : '"' ∉ value) :
    readTag? (front ++ value ++ ['"', '>']) = some (tag, attributes ++ [(name, value)]) := by
  have hend : ['"', '>'].foldlM TagReader.step (.inValue tag attributes name value) =
      some (.closed tag (attributes ++ [(name, value)])) := rfl
  rw [readTag?, List.foldlM_append, List.foldlM_append, hfront, Option.bind_eq_bind,
    Option.bind_some, foldlM_step_value tag attributes name [] hvalue, List.nil_append,
    Option.bind_some, hend]

/-- The attributes of the search box in front of its value. -/
def searchAttributes : Attributes :=
  [("name".toList, "search".toList), ("type".toList, "text".toList),
    ("id".toList, "st_search".toList), ("class".toList, "st_search".toList),
    ("placeholder".toList, "Search Here".toList)]

/-- The search box up to the query. -/
def searchFront : String :=
  "<input name=\"search\" type=\"text\" id=\"st_search\" class=\"st_search\" " ++
    "placeholder=\"Search Here\" value=\""

theorem foldlM_step_searchFront :
    searchFront.toList.foldlM TagReader.step .outside =
      some (.inValue "input".toList searchAttributes "value".toList []) := by decide +kernel

/-- **The value of the search box is the escaped query**, and the tag ends where it should. -/
theorem readTag?_searchMarkup (query : String) :
    readTag? (Table.searchMarkup query).toList =
      some ("input".toList, searchAttributes ++ [("value".toList, (escape query).toList)]) := by
  have hquote : '"' ∉ (escape query).toList := by
    rw [toList_escape]
    exact not_mem_escapeChars (by simp [markup]) _
  have hmarkup : Table.searchMarkup query = searchFront ++ escape query ++ "\">" := rfl
  have hback : "\">".toList = ['"', '>'] := by decide +kernel
  rw [hmarkup, String.toList_append, hback, String.toList_append]
  exact readTag?_append foldlM_step_searchFront hquote

/-! ### What is lost -/

/-- Nothing is lost by escaping the text, and nothing in it is taken for anything else. -/
structure Lossless (s : String) : Prop where
  unescape_eq : unescape (escape s) = s
  eq_of_escape_eq : ∀ t, escape t = escape s → t = s
  append : ∀ t, escape (s ++ t) = escape s ++ escape t
  noMarkup : ∀ x ∈ markup, x ∉ (escape s).toList
  entitiesOnly : EntitiesOnly (escape s).toList
  /-- Whoever reads the search box with the text as its query finds the text. -/
  searched : ∃ attributes,
    readTag? (Table.searchMarkup s).toList = some ("input".toList, attributes) ∧
      attributes.map (fun a => String.ofList a.1) =
        ["name", "type", "id", "class", "placeholder", "value"] ∧
      (Dict.get? attributes "value".toList).map unescapeChars = some s.toList

/-- **Escaping loses nothing and is safe**, for every text. -/
theorem lossless_escape (s : String) : Lossless s where
  unescape_eq := unescape_escape s
  eq_of_escape_eq _ h := escape_injective h
  append := escape_append s
  noMarkup x hx := by
    rw [toList_escape]
    exact not_mem_escapeChars hx s.toList
  entitiesOnly := by
    rw [toList_escape]
    exact entitiesOnly_escapeChars s.toList
  searched := by
    refine ⟨_, readTag?_searchMarkup s, by simp [searchAttributes], ?_⟩
    have hvalue : Dict.get? (searchAttributes ++ [("value".toList, (escape s).toList)])
        "value".toList = some (escape s).toList := by
      simp [searchAttributes, Dict.get?]
    rw [hvalue, Option.map_some, toList_escape, unescapeChars_escapeChars]

/-- A text that looks escaped already is no exception. -/
example : escape "&lt;/" = "&amp;lt;&#x2F;" ∧ unescape "&amp;lt;&#x2F;" = "&lt;/" := by
  decide +kernel

end LiveTable.Html
