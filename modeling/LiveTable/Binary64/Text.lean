import LiveTable.Binary64.Shortest

/-!
# Numbers as text

The digits of a number are those of its shortest decimal; a style says how they are laid out.

* `Style`: the choices of a layout;
* `Style.plain`: the layout of output text;
* `Style.exact`: the layout of diagnostic text, which shows that a number is not an integer;
* `write style x`: the text of `x`.
-/

namespace LiveTable.Binary64

/-- How the digits of a number are laid out. -/
structure Style where
  /-- Written after a number without a fraction. -/
  whole : String
  /-- Whether a number whose first digit has the place value `10 ^ n` is written without an
  exponent. -/
  positional : Int → Bool
  nan : String
  infinity : String

/-- In output a number has no exponent and no empty fraction. -/
def Style.plain : Style := ⟨"", fun _ => true, "NaN", "Infinity"⟩

/-- In diagnostics a number always has a fraction or an exponent, and an exponent from `10 ^ 16`
up and below `10 ^ -4`. -/
def Style.exact : Style := ⟨".0", fun n => -4 ≤ n && n < 16, "NaN", "inf"⟩

/-- The decimal without an exponent. -/
def positionalText (whole : String) (d : Decimal) : String :=
  let digits := Nat.toDigits 10 d.digits
  if 0 ≤ d.exponent then
    String.ofList (digits ++ List.replicate d.exponent.toNat '0') ++ whole
  else
    let places := (-d.exponent).toNat
    let padded := List.replicate (places + 1 - digits.length) '0' ++ digits
    let point := padded.length - places
    String.ofList (padded.take point ++ '.' :: padded.drop point)

/-- The decimal as one digit, a fraction and an exponent. -/
def exponentText (d : Decimal) : String :=
  let digits := Nat.toDigits 10 d.digits
  let place := d.exponent + ((digits.length : Int) - 1)
  let fraction := if digits.length ≤ 1 then [] else '.' :: digits.drop 1
  String.ofList (digits.take 1 ++ fraction) ++ "e" ++ toString place

/-- The text of a positive finite number. -/
def magnitudeText (style : Style) (x : Binary64) : String :=
  let d := x.shortest
  if style.positional (d.exponent + ((Decimal.length d.digits : Int) - 1)) then
    positionalText style.whole d
  else exponentText d

/-- The text of a number. -/
def write (style : Style) (x : Binary64) : String :=
  if x.isNaN then style.nan
  else
    (if x.negative then "-" else "") ++
      (if x.isInfinite then style.infinity
       else if x.isZero then "0" ++ style.whole
       else magnitudeText style x)

end LiveTable.Binary64
