import LiveTable.Binary64.Basic

/-!
# Rounding to binary64

A quotient of natural numbers is rounded to the nearest number of the format, and of two nearest
ones to that with the even significand. Arithmetic is the exact result, rounded once.

* `halfEven num den`: the whole number nearest to `num / den`;
* `ofRatio negative num den`: the number nearest to `± num / den`;
* `ofNat`, `ofInt`: whole numbers;
* `mul`, `div`: products and quotients of finite numbers;
* `ofBinary32`: a number of the 32-bit format, which is a number of this one too.
-/

namespace LiveTable.Binary64

/-- The whole number nearest to `num / den`; halfway goes to the even neighbour. -/
def halfEven (num den : Nat) : Nat :=
  let q := num / den
  let r := num % den
  if 2 * r < den then q
  else if den < 2 * r then q + 1
  else q + q % 2

/-- The field of the number nearest to `num / den`. The unit of the significand is the least one
that leaves it 53 bits; a significand rounded up to the next power of two carries into the
exponent. -/
def fieldOfRatio (num den : Nat) : Nat :=
  let units := num <<< 1074
  let e := Nat.log2 (units / den) - 52
  min (e * Nat.pow 2 52 + halfEven units (den <<< e)) infiniteField

/-- The number nearest to `num / den`, with the given sign. -/
def ofRatio (negative : Bool) (num den : Nat) : Binary64 :=
  ofField negative (fieldOfRatio num den)

/-- The number nearest to a natural number. -/
def ofNat (n : Nat) : Binary64 := ofRatio false n 1

/-- The number nearest to an integer. -/
def ofInt (i : Int) : Binary64 := ofRatio (decide (i < 0)) i.natAbs 1

/-- The product of two finite numbers. -/
def mul (x y : Binary64) : Binary64 :=
  ofRatio (x.negative != y.negative) (x.scaled * y.scaled) (1 <<< 2148)

/-- The quotient of two finite numbers; the second is not zero. -/
def div (x y : Binary64) : Binary64 :=
  ofRatio (x.negative != y.negative) x.scaled y.scaled

/-- The number with the word `bits` in the 32-bit format: eight bits of exponent and
twenty-three of fraction. A NaN becomes the NaN that keeps the payload and is quiet. -/
def ofBinary32 (bits : UInt32) : Binary64 :=
  let word := bits.toNat
  let negative : Bool := Nat.pow 2 31 ≤ word
  let field := word % Nat.pow 2 31
  let fraction := field % Nat.pow 2 23
  if field < Nat.pow 2 23 then ofRatio negative fraction (Nat.pow 2 149)
  else if field < 255 * Nat.pow 2 23 then
    ofRatio negative ((Nat.pow 2 23 + fraction) <<< (field / Nat.pow 2 23 - 1)) (Nat.pow 2 149)
  else if fraction = 0 then ofField negative infiniteField
  else ofField negative (infiniteField + fraction % Nat.pow 2 22 * Nat.pow 2 29 + Nat.pow 2 51)

end LiveTable.Binary64
