/-!
# Lengths of time as text

* `decimal n places`: the number `n / 10 ^ places` with a point, without zeros at its end;
* `duration n`: a number of nanoseconds in the largest unit that is not larger than it.
-/

namespace LiveTable.Text

/-- The number `n / 10 ^ places` with a point, without zeros at its end. -/
def decimal (n places : Nat) : String :=
  let unit := Nat.pow 10 places
  let digits := (Nat.toDigits 10 (unit + n % unit)).drop 1
  let fraction := (digits.reverse.dropWhile (· == '0')).reverse
  toString (n / unit) ++
    if fraction.isEmpty then "" else "." ++ String.ofList fraction

/-- A number of nanoseconds in seconds, milliseconds, microseconds or nanoseconds: the largest of
these units that is not larger than it. -/
def duration (nanoseconds : Nat) : String :=
  if Nat.pow 10 9 ≤ nanoseconds then decimal nanoseconds 9 ++ "s"
  else if Nat.pow 10 6 ≤ nanoseconds then decimal nanoseconds 6 ++ "ms"
  else if Nat.pow 10 3 ≤ nanoseconds then decimal nanoseconds 3 ++ "µs"
  else toString nanoseconds ++ "ns"

end LiveTable.Text
