/-!
# Reading counts

* `digitValue? c`: the value of an ASCII digit;
* `readDigits cs`: the number written by a non-empty list of digits;
* `readCount s`: the count written by `s`, digits after an optional plus sign, below `2 ^ 64`.
-/

namespace LiveTable.Text

/-- Counts are below this bound. -/
def countBound : Nat := Nat.pow 2 64

/-- The value of an ASCII digit. -/
def digitValue? (c : Char) : Option Nat :=
  if c.isDigit then some (c.toNat - 48) else none

/-- The number written by a non-empty list of digits, after the digits that make `n`. -/
def readDigitsFrom (n : Nat) : List Char → Option Nat
  | [] => some n
  | c :: cs => do readDigitsFrom (10 * n + (← digitValue? c)) cs

/-- The number written by a non-empty list of digits. -/
def readDigits (cs : List Char) : Option Nat :=
  if cs.isEmpty then none else readDigitsFrom 0 cs

/-- The count written by a text. -/
def readCount (s : String) : Option Nat :=
  let digits :=
    match s.toList with
    | '+' :: cs => cs
    | cs => cs
  (readDigits digits).filter (· < countBound)

end LiveTable.Text
