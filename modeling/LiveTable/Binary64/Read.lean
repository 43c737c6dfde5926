import LiveTable.Binary64.Round
import LiveTable.Text.Count

/-!
# Reading numbers

* `Scientific`: a decimal as read, a whole significand times a power of ten;
* `Scientific.toBinary64`: the nearest number of the format;
* `scientific? cs`: a decimal with an optional fraction and an optional exponent;
* `read? s`: a decimal, an infinity or a NaN, with an optional sign.
-/

namespace LiveTable

/-- The value `significand * 10 ^ exponent`. -/
structure Scientific where
  significand : Nat
  exponent : Int

/-- The number nearest to the decimal, with the given sign. A significand from `2 ^ b` up to
`2 ^ (b + 1)` lies between `10 ^ (b / 4)` and `10 ^ (b / 3 + 1)`. Above `10 ^ 400` everything is
infinite and below `10 ^ -400` everything is zero, whatever the digits. -/
def Scientific.toBinary64 (negative : Bool) (d : Scientific) : Binary64 :=
  let b := Nat.log2 d.significand
  if d.significand = 0 ∨ d.exponent + (b / 3 + 1 : Nat) < -400 then .ofField negative 0
  else if 400 < d.exponent + (b / 4 : Nat) then .ofField negative Binary64.infiniteField
  else .ofRatio negative (d.significand * Nat.pow 10 d.exponent.toNat)
    (Nat.pow 10 (-d.exponent).toNat)

namespace Binary64

/-- The size of an exponent. Once it has reached `2 ^ 16`, more digits leave it as it is. -/
def exponentSize? (digits : List Char) : Option Nat :=
  (Text.readDigits digits).map fun _ =>
    digits.foldl (fun n c => if n < Nat.pow 2 16 then 10 * n + (c.toNat - '0'.toNat) else n) 0

/-- The exponent part of a decimal: nothing, or the letter `e`, an optional sign and digits. -/
def exponentPart? : List Char → Option Int
  | [] => some 0
  | e :: cs =>
    if e = 'e' ∨ e = 'E' then
      match cs with
      | '-' :: digits => (exponentSize? digits).map fun n => -(n : Int)
      | '+' :: digits => (exponentSize? digits).map Int.ofNat
      | digits => (exponentSize? digits).map Int.ofNat
    else none

/-- A decimal without a sign: digits with an optional point among or around them, and an optional
exponent. -/
def scientific? (cs : List Char) : Option Scientific := do
  let whole := cs.takeWhile Char.isDigit
  let rest := cs.dropWhile Char.isDigit
  let (fraction, rest) :=
    match rest with
    | '.' :: more => (more.takeWhile Char.isDigit, more.dropWhile Char.isDigit)
    | rest => ([], rest)
  let significand ← Text.readDigits (whole ++ fraction)
  let exponent ← exponentPart? rest
  pure ⟨significand, exponent - fraction.length⟩

/-- A number without a sign: a decimal, or the name of an infinity or a NaN in any case. -/
def readMagnitude? (negative : Bool) (cs : List Char) : Option Binary64 :=
  let name := cs.map Char.toLower
  if name = ['i', 'n', 'f'] ∨ name = ['i', 'n', 'f', 'i', 'n', 'i', 't', 'y'] then
    some (ofField negative infiniteField)
  else if name = ['n', 'a', 'n'] then some nan
  else (scientific? cs).map (·.toBinary64 negative)

/-- The number written by a text. -/
def read? (s : String) : Option Binary64 :=
  match s.toList with
  | '-' :: cs => readMagnitude? true cs
  | '+' :: cs => readMagnitude? false cs
  | cs => readMagnitude? false cs

end Binary64

end LiveTable
