import LiveTable.Binary64.Basic

/-!
# Shortest decimals

The decimal of a finite number has the fewest digits among those that round back to it, and of
those with the fewest digits it is the nearest to the number; the larger one if two are equally
near.

* `Decimal`: a natural number times a power of ten;
* `Interval`: a number with the ends of the interval of reals that round to it, over a common
  denominator;
* `shortest x`: the decimal of a positive finite number.
-/

namespace LiveTable

/-- The value `digits * 10 ^ exponent`. -/
structure Decimal where
  digits : Nat
  exponent : Int

namespace Decimal

/-- The number of decimal digits of a natural number. -/
def length (n : Nat) : Nat := (Nat.toDigits 10 n).length

/-- The same value without trailing zeros among the digits; `fuel` bounds their number. -/
def strip : Nat → Decimal → Decimal
  | 0, d => d
  | fuel + 1, d =>
    if d.digits % 10 = 0 then strip fuel ⟨d.digits / 10, d.exponent + 1⟩ else d

end Decimal

namespace Binary64

/-- The number `value / den` with the interval from `low / den` to `high / den` of the reals that
round to it; `closed` says that the ends round to it too. -/
structure Interval where
  low : Nat
  value : Nat
  high : Nat
  den : Nat
  closed : Bool

/-- The interval of a finite number: it reaches halfway to the neighbours, and below a power of two
the lower neighbour is half as far away. -/
def interval (x : Binary64) : Interval :=
  let m := x.significand
  let e := x.exponent
  let gap := if m = Nat.pow 2 52 ∧ e ≠ 0 then 1 else 2
  ⟨(4 * m - gap) <<< e, (4 * m) <<< e, (4 * m + 2) <<< e, 1 <<< 1076, m % 2 == 0⟩

/-- The decimal `digits * 10 ^ exponent` lies in the interval. -/
def Interval.holds (i : Interval) (digits : Nat) (exponent : Int) : Bool :=
  let n := digits * Nat.pow 10 exponent.toNat * i.den
  let scale := Nat.pow 10 (-exponent).toNat
  if i.closed then i.low * scale ≤ n && n ≤ i.high * scale
  else i.low * scale < n && n < i.high * scale

/-- The exponent `k` with `10 ^ (k - 1) ≤ value < 10 ^ k`. -/
def Interval.decimalPlace (i : Interval) : Int :=
  if i.den ≤ i.value then Decimal.length (i.value / i.den)
  else 1 - (Decimal.length ((i.den - 1) / i.value) : Int)

/-- The decimal with the given exponent that is nearest to the value among the two around it that
lie in the interval. -/
def Interval.candidate? (i : Interval) (exponent : Int) : Option Nat :=
  let unit := Nat.pow 10 exponent.toNat * i.den
  let scaled := i.value * Nat.pow 10 (-exponent).toNat
  let down := scaled / unit
  let up := down + 1
  match i.holds down exponent, i.holds up exponent with
  | true, true => some (if 2 * (scaled % unit) < unit then down else up)
  | true, false => some down
  | false, true => some up
  | false, false => none

/-- The decimal of a positive finite number; seventeen digits always tell it from its
neighbours. -/
def shortest (x : Binary64) : Decimal :=
  let i := x.interval
  let place := i.decimalPlace
  let found := (List.range 17).findSome? fun n =>
    let exponent := place - (n + 1 : Nat)
    (i.candidate? exponent).map fun digits => Decimal.strip 17 ⟨digits, exponent⟩
  found.getD ⟨0, 0⟩

end Binary64

end LiveTable
