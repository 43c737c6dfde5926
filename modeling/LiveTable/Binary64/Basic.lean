/-!
# Binary64 numbers

A number in the 64-bit binary interchange format is its word of bits: a sign, eleven bits of
exponent and fifty-two bits of fraction. Everything here is computed from the word in integers.

* `Binary64`: a word of bits;
* `field x`: the word without its sign, which grows with the absolute value;
* `isNaN`, `isInfinite`, `isZero`: the special words;
* `rank x`: a position on the number line that orders all words but the NaNs;
* `equal`: the equality of the format, in which a NaN equals nothing and the two zeros are equal;
* `scaled x`: the absolute value of a finite number in units of `2 ^ -1074`.
-/

namespace LiveTable

/-- A number in the 64-bit binary interchange format, as its word of bits. -/
structure Binary64 where
  bits : UInt64
  deriving DecidableEq

namespace Binary64

/-- The word with the given sign whose exponent and fraction fields read `field`. -/
def ofField (negative : Bool) (field : Nat) : Binary64 :=
  ⟨UInt64.ofNat (if negative then Nat.pow 2 63 + field else field)⟩

/-- The sign bit. -/
def negative (x : Binary64) : Bool := Nat.pow 2 63 ≤ x.bits.toNat

/-- The exponent and fraction fields as one number. -/
def field (x : Binary64) : Nat := x.bits.toNat % Nat.pow 2 63

/-- The field of the two infinities; larger fields are NaNs. -/
def infiniteField : Nat := 2047 * Nat.pow 2 52

/-- The word is no number. -/
def isNaN (x : Binary64) : Bool := infiniteField < x.field

/-- The number is one of the infinities. -/
def isInfinite (x : Binary64) : Bool := x.field == infiniteField

/-- The number is one of the zeros. -/
def isZero (x : Binary64) : Bool := x.field == 0

/-- Positive zero. -/
def zero : Binary64 := ofField false 0

/-- The quiet NaN with an empty payload. -/
def nan : Binary64 := ofField false (infiniteField + Nat.pow 2 51)

/-- The same number with the other sign. -/
def neg (x : Binary64) : Binary64 := ofField (!x.negative) x.field

/-- The place of a number on the number line. -/
def rank (x : Binary64) : Int := if x.negative then -(x.field : Int) else x.field

/-- Equality of numbers: a NaN equals nothing, the two zeros are equal. -/
def equal (x y : Binary64) : Bool := !x.isNaN && !y.isNaN && x.rank == y.rank

/-- The significand of a finite number: 53 bits, or fewer for the numbers near zero. -/
def significand (x : Binary64) : Nat :=
  if x.field < Nat.pow 2 52 then x.field else Nat.pow 2 52 + x.field % Nat.pow 2 52

/-- The exponent of the significand's unit, counted from the least one. -/
def exponent (x : Binary64) : Nat := x.field / Nat.pow 2 52 - 1

/-- The absolute value of a finite number in units of `2 ^ -1074`. -/
def scaled (x : Binary64) : Nat := x.significand <<< x.exponent

end Binary64

end LiveTable
