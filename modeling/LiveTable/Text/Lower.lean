import LiveTable.Text.LowerTable

/-!
# Lower case

Rows are sorted by the lower case of their texts. Every character is mapped on its own, except that
a capital sigma at the end of a word becomes the final sigma.

* `lowerChar c`: the lower case of one character;
* `endsWord before after`: whether a sigma between these characters stands at the end of a word;
* `lower s`: the lower case of a text.
-/

namespace LiveTable.Text

/-- The character has a case: it has the property `Cased`. -/
def isCased (c : Char) : Bool := inRanges casedRanges c.toNat

/-- The character does not separate the letters of a word: it has the property
`Case_Ignorable`. -/
def isCaseIgnorable (c : Char) : Bool := inRanges caseIgnorableRanges c.toNat

/-- The lower case of one character. -/
def lowerChar (c : Char) : List Char :=
  let n := c.toNat
  if n < 0x80 then [c.toLower]
  else if n = 0x130 then ['i', Char.ofNat 0x307]
  else [Char.ofNat (partnerIn lowerRuns n)]

/-- The first character that is not case-ignorable has a case. -/
def startsCased (cs : List Char) : Bool :=
  match cs.dropWhile isCaseIgnorable with
  | c :: _ => isCased c
  | [] => false

/-- A sigma stands at the end of a word if a cased character comes before it and none comes
after it; `before` is read backwards. -/
def endsWord (before after : List Char) : Bool :=
  startsCased before && !startsCased after

/-- The lower case of a text whose characters before, read backwards, are `before`. -/
def lowerFrom (before : List Char) : List Char → List Char
  | [] => []
  | c :: cs =>
    (if c = 'Σ' then [if endsWord before cs then 'ς' else 'σ'] else lowerChar c) ++
      lowerFrom (c :: before) cs

/-- The lower case of a text. -/
def lower (s : String) : String := String.ofList (lowerFrom [] s.toList)

end LiveTable.Text
