/-!
# Runs of characters with a case partner

Most letters whose other case is a single character lie in runs: every first or every second
character of a stretch, each as far from its partner as the others. A table of such runs stands
for the whole relation.

* `CaseRun`: one run;
* `CaseRun.partner? r n`: the partner of the character number `n`, if `n` lies in the run.
-/

namespace LiveTable.Text

/-- The characters `first`, `first + step`, … up to `last`; the partner of each is `shift` away. -/
structure CaseRun where
  first : Nat
  last : Nat
  step : Nat
  shift : Int

/-- The partner of the character number `n` in this run. -/
def CaseRun.partner? (r : CaseRun) (n : Nat) : Option Nat :=
  if r.first ≤ n ∧ n ≤ r.last ∧ (n - r.first) % r.step = 0 then some ((n : Int) + r.shift).toNat
  else none

/-- The partner of the character number `n` in the first run that holds it, else `n` itself. -/
def partnerIn (runs : List CaseRun) (n : Nat) : Nat :=
  (runs.findSome? (·.partner? n)).getD n

/-- Whether `n` lies in one of the given closed intervals. -/
def inRanges (ranges : List (Nat × Nat)) (n : Nat) : Bool :=
  ranges.any (fun r => r.1 ≤ n && n ≤ r.2)

end LiveTable.Text
