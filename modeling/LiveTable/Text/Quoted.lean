import LiveTable.Text.HiddenTable
import LiveTable.Text.CaseRun

/-!
# Quoted texts

A diagnostic text shows a string between double quotes, so that every character of it can be seen:
a quote, a backslash and the usual control characters have a two-character form, and a character
without a mark of its own is written by its number.

* `quotedChar c`: the written form of one character;
* `quoted s`: the whole text between quotes.
-/

namespace LiveTable.Text

/-- The character leaves no mark of its own on the page. -/
def isHidden (c : Char) : Bool := inRanges hiddenRanges c.toNat

/-- A number in lower-case hexadecimal digits. -/
def hex (n : Nat) : List Char := Nat.toDigits 16 n

/-- The form of one character between double quotes. -/
def quotedChar (c : Char) : List Char :=
  if c = Char.ofNat 0 then ['\\', '0']
  else if c = '\t' then ['\\', 't']
  else if c = '\n' then ['\\', 'n']
  else if c = '\r' then ['\\', 'r']
  else if c = '"' then ['\\', '"']
  else if c = '\\' then ['\\', '\\']
  else if isHidden c then ['\\', 'u', '{'] ++ hex c.toNat ++ ['}']
  else [c]

/-- The text between double quotes. -/
def quoted (s : String) : String :=
  String.ofList ('"' :: s.toList.flatMap quotedChar ++ ['"'])

end LiveTable.Text
