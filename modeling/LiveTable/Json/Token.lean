import LiveTable.Json.Number

/-!
# JSON tokens

The lexical part of the format: brackets, separators, literals, numbers and strings, with blanks
between them.

* `Token`: a token with its value;
* `takeString? cs`: the string whose opening quote came before `cs`;
* `Token.take? cs`: the token at the head of a text that starts with no blank;
* `tokens? cs`: all tokens of a text.
-/

namespace LiveTable.Json

/-- A token of a JSON document. -/
inductive Token where
  | openArray | closeArray | openObject | closeObject | comma | colon
  | null
  | bool (b : Bool)
  | number (n : Number)
  | string (s : String)

/-- The value of a hexadecimal digit. -/
def hexValue? (c : Char) : Option Nat :=
  if c.isDigit then some (c.toNat - 48)
  else if 'a' ≤ c ∧ c ≤ 'f' then some (c.toNat - 87)
  else if 'A' ≤ c ∧ c ≤ 'F' then some (c.toNat - 55)
  else none

/-- The number written by four hexadecimal digits. -/
def hexUnit? (a b c d : Char) : Option Nat := do
  pure ((((← hexValue? a) * 16 + (← hexValue? b)) * 16 + (← hexValue? c)) * 16 + (← hexValue? d))

/-- The character of an escape of one letter. -/
def simpleEscape? : Char → Option Char
  | '"' => some '"'
  | '\\' => some '\\'
  | '/' => some '/'
  | 'b' => some (Char.ofNat 8)
  | 'f' => some (Char.ofNat 12)
  | 'n' => some '\n'
  | 'r' => some '\r'
  | 't' => some '\t'
  | _ => none

/-- The character of two units: one above `0xFFFF` is written as a pair of surrogates. -/
def pairedChar? (high low : Nat) : Option Char :=
  if 0xD800 ≤ high ∧ high < 0xDC00 ∧ 0xDC00 ≤ low ∧ low < 0xE000 then
    some (Char.ofNat (0x10000 + (high - 0xD800) * 0x400 + (low - 0xDC00)))
  else none

/-- The characters of the string whose opening quote came before the text, and the text after its
closing quote. -/
def takeString? : List Char → Option (List Char × List Char)
  | '"' :: cs => some ([], cs)
  | '\\' :: 'u' :: a :: b :: c :: d :: cs => do
    let unit ← hexUnit? a b c d
    if unit < 0xD800 ∨ 0xE000 ≤ unit then
      let (s, rest) ← takeString? cs
      pure (Char.ofNat unit :: s, rest)
    else
      match cs with
      | '\\' :: 'u' :: e :: f :: g :: h :: cs => do
        let ch ← pairedChar? unit (← hexUnit? e f g h)
        let (s, rest) ← takeString? cs
        pure (ch :: s, rest)
      | _ => none
  | '\\' :: c :: cs => do
    let ch ← simpleEscape? c
    let (s, rest) ← takeString? cs
    pure (ch :: s, rest)
  | c :: cs => do
    if c = '\\' ∨ c.toNat < 0x20 then none
    let (s, rest) ← takeString? cs
    pure (c :: s, rest)
  | [] => none

/-- The four characters that may stand between tokens. -/
def isSpace (c : Char) : Bool := c == ' ' || c == '\t' || c == '\n' || c == '\r'

/-- The token at the head of a text that starts with no blank, and the text after it. -/
def Token.take? : List Char → Option (Token × List Char)
  | '[' :: cs => some (.openArray, cs)
  | ']' :: cs => some (.closeArray, cs)
  | '\x7b' :: cs => some (.openObject, cs)
  | '\x7d' :: cs => some (.closeObject, cs)
  | ',' :: cs => some (.comma, cs)
  | ':' :: cs => some (.colon, cs)
  | 'n' :: 'u' :: 'l' :: 'l' :: cs => some (.null, cs)
  | 't' :: 'r' :: 'u' :: 'e' :: cs => some (.bool true, cs)
  | 'f' :: 'a' :: 'l' :: 's' :: 'e' :: cs => some (.bool false, cs)
  | '"' :: cs => (takeString? cs).map fun (s, rest) => (.string (String.ofList s), rest)
  | cs => do
    let (numeral, rest) ← Numeral.take? cs
    pure (.number (← numeral.value?), rest)

/-- The tokens of a text. A token is never empty, so `fuel` above the length of the text is
enough. -/
def tokensWithin? : Nat → List Char → Option (List Token)
  | 0, _ => none
  | fuel + 1, cs =>
    match cs.dropWhile isSpace with
    | [] => some []
    | cs => do
      let (token, rest) ← Token.take? cs
      let more ← tokensWithin? fuel rest
      pure (token :: more)

/-- The tokens of a text. -/
def tokens? (cs : List Char) : Option (List Token) := tokensWithin? (cs.length + 1) cs

end LiveTable.Json
