import LiveTable.Binary64.Round
import LiveTable.Text.Count

/-!
# JSON numbers

A JSON number without fraction and exponent stays an integer while its digits fit in 64 bits.
Every other number is a binary64 number, computed from a significand that keeps the leading digits
that fit in 64 bits and from a power of ten, by one product or quotient of two rounded numbers.

* `Number`: an integer or a binary64 number;
* `Numeral`: the parts of a number as written;
* `Numeral.take? cs`: the parts of the number at the head of a text;
* `Numeral.value?`: the number, unless it is too large for the format.
-/

namespace LiveTable.Json

/-- A number of a JSON document. -/
inductive Number where
  | integer (i : Int)
  | real (x : Binary64)

/-- The parts of a number as written: the digits before the point, the digits after it, and the
exponent; the last two may be absent. -/
structure Numeral where
  negative : Bool
  whole : List Char
  fraction : Option (List Char)
  exponent : Option Int

/-- The digits at the head of a text, unless there are none. -/
def takeDigits? (cs : List Char) : Option (List Char × List Char) :=
  let digits := cs.takeWhile Char.isDigit
  if digits.isEmpty then none else some (digits, cs.dropWhile Char.isDigit)

/-- The number written by digits. -/
def digitsValue (cs : List Char) : Nat := (Text.readDigits cs).getD 0

/-- The fraction at the head of a text: a point and digits, or nothing. -/
def takeFraction? : List Char → Option (Option (List Char) × List Char)
  | '.' :: cs => (takeDigits? cs).map fun (digits, rest) => (some digits, rest)
  | cs => some (none, cs)

/-- The digits of an exponent with the given sign. -/
def takeExponentDigits? (sign : Int) (cs : List Char) : Option (Option Int × List Char) :=
  (takeDigits? cs).map fun (digits, rest) => (some (sign * digitsValue digits), rest)

/-- The exponent at the head of a text: the letter `e`, an optional sign and digits, or
nothing. -/
def takeExponent? : List Char → Option (Option Int × List Char)
  | e :: cs =>
    if e = 'e' ∨ e = 'E' then
      match cs with
      | '+' :: rest => takeExponentDigits? 1 rest
      | '-' :: rest => takeExponentDigits? (-1) rest
      | rest => takeExponentDigits? 1 rest
    else some (none, e :: cs)
  | [] => some (none, [])

/-- The digits before the point: a zero alone, or digits that start with another one. -/
def takeWhole? : List Char → Option (List Char × List Char)
  | '0' :: cs => some (['0'], cs)
  | cs => takeDigits? cs

/-- The number at the head of a text, and the text after it. -/
def Numeral.take? (cs : List Char) : Option (Numeral × List Char) := do
  let (negative, cs) :=
    match cs with
    | '-' :: cs => (true, cs)
    | cs => (false, cs)
  let (whole, cs) ← takeWhole? cs
  let (fraction, cs) ← takeFraction? cs
  let (exponent, cs) ← takeExponent? cs
  pure (⟨negative, whole, fraction, exponent⟩, cs)

/-- A significand grows by the digits, until the first that would make it too large for 64 bits;
the second component counts the digits that were left out. -/
def extend (significand : Nat) : List Char → Nat × Nat
  | [] => (significand, 0)
  | c :: cs =>
    let next := 10 * significand + (c.toNat - 48)
    if next < Nat.pow 2 64 then extend next cs else (significand, (c :: cs).length)

/-- The power of ten as a binary64 number, for an exponent up to 308. -/
def powerOfTen (n : Nat) : Binary64 := .ofNat (Nat.pow 10 n)

/-- `x * 10 ^ exponent` for a positive exponent, unless it is infinite. -/
def scaleUp? (x : Binary64) (exponent : Nat) : Option Binary64 :=
  if 308 < exponent then (if x.isZero then some x else none)
  else
    let y := x.mul (powerOfTen exponent)
    if y.isInfinite then none else some y

/-- `x / 10 ^ exponent`, in steps of at most `10 ^ 308`; after two steps only zero is left. -/
def scaleDown (x : Binary64) (exponent : Nat) : Binary64 :=
  if exponent ≤ 308 then x.div (powerOfTen exponent)
  else
    let y := x.div (powerOfTen 308)
    if exponent ≤ 616 then y.div (powerOfTen (exponent - 308))
    else .zero

/-- The binary64 number of a significand and a power of ten. -/
def realValue? (negative : Bool) (significand : Nat) (exponent : Int) : Option Number :=
  let x := Binary64.ofNat significand
  let magnitude :=
    if 0 ≤ exponent then scaleUp? x exponent.toNat else some (scaleDown x (-exponent).toNat)
  magnitude.map fun y => .real (if negative then y.neg else y)

/-- The number, unless it is too large for the format. -/
def Numeral.value? (n : Numeral) : Option Number :=
  let (significand, dropped) := extend 0 n.whole
  if n.fraction.isNone && n.exponent.isNone && dropped == 0 then
    if !n.negative then some (.integer significand)
    else if 0 < significand ∧ significand ≤ Nat.pow 2 63 then some (.integer (-(significand : Int)))
    else some (.real (Binary64.ofNat significand).neg)
  else
    let fraction := n.fraction.getD []
    let (significand, unread) := extend significand fraction
    realValue? n.negative significand
      (dropped - ((fraction.length - unread : Nat) : Int) + n.exponent.getD 0)

end LiveTable.Json
