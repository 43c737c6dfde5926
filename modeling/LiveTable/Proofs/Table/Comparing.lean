import LiveTable.Proofs.Binary64.NumberLine
import LiveTable.Proofs.Table.RowOrder
import LiveTable.Proofs.Table.Toggling

/-!
# Comparing rows

Whatever values rows are and whatever stands in the field of a column, the column compares any two
of them, and its answers never contradict each other.

* `SortSpec.number spec row`: the number that a column finds in a row;
* `SortKey.compare_ofNumber`, `SortSpec.compare_of_number`: rows are compared by what their numbers
  are worth, and those without a number come after all others;
* `SortSpec.compare_flip`: the other direction turns every answer around;
* `SortSpec.Consistent spec`: what a sort may rely on;
* `SortSpec.consistent`: it may do so for every column.
-/

namespace LiveTable.Table

/-- Numbers are compared by what they are worth. All NaNs are equal and come after them. -/
theorem SortKey.compare_ofNumber (x y : Binary64) :
    (ofNumber x).compare (ofNumber y) =
      match x.isNaN, y.isNaN with
      | false, false => Ord.compare x.value y.value
      | false, true => .lt
      | true, false => .gt
      | true, true => .eq := by
  unfold ofNumber
  cases x.isNaN <;> cases y.isNaN
  · exact Binary64.compare_rank x y
  all_goals rfl

theorem Direction.apply_flip (d : Direction) (o : Ordering) :
    d.flip.apply o = (d.apply o).swap := by
  cases d with
  | ascending => rfl
  | descending => exact o.swap_swap.symm

namespace SortSpec

variable (spec : SortSpec)

/-- The number that the column finds in a row. -/
def number (row : Value) : Binary64 := (row.get spec.field).asNumber

theorem compare_of_number (h : spec.comparison = .number) (a b : Value) :
    spec.compare a b =
      spec.direction.apply ((SortKey.ofNumber (spec.number a)).compare
        (SortKey.ofNumber (spec.number b))) := by
  unfold compare compareKeys key
  rw [h]
  rfl

/-- **The other direction turns every answer around.** -/
theorem compare_flip (a b : Value) : spec.flip.compare a b = (spec.compare a b).swap :=
  spec.direction.apply_flip _

instance : Std.OrientedCmp spec.compare where
  eq_swap {a b} := @Std.OrientedCmp.eq_swap _ spec.compareKeys _ (spec.key a) (spec.key b)

instance : Std.TransCmp spec.compare where
  isLE_trans {a b c} :=
    @Std.TransCmp.isLE_trans _ spec.compareKeys _ (spec.key a) (spec.key b) (spec.key c)

/-! ### What a sort relies on -/

/-- The answers of the column do not contradict each other, so that a sort may rely on them. -/
structure Consistent : Prop where
  /-- Rows the other way round are compared the other way round. -/
  reverse : ∀ a b, spec.compare a b = (spec.compare b a).swap
  self : ∀ a, spec.compare a a = .eq
  notGreater : ∀ a b c,
    spec.compare a b ≠ .gt → spec.compare b c ≠ .gt → spec.compare a c ≠ .gt
  /-- What stands twice in the same way stands in that way from end to end. -/
  alike : ∀ o a b c, spec.compare a b = o → spec.compare b c = o → spec.compare a c = o
  flip : ∀ a b, spec.flip.compare a b = (spec.compare a b).swap
  /-- Numbers are compared by what they are worth. -/
  numbers : spec.comparison = .number → ∀ a b,
    (spec.number a).isNaN = false → (spec.number b).isNaN = false →
      spec.compare a b =
        spec.direction.apply (Ord.compare (spec.number a).value (spec.number b).value)
  /-- Rows without a number are equal. -/
  nans : spec.comparison = .number → ∀ a b,
    (spec.number a).isNaN = true → (spec.number b).isNaN = true → spec.compare a b = .eq
  /-- Rows without a number come last in ascending order. -/
  nanLast : spec.comparison = .number → spec.direction = .ascending → ∀ a b,
    (spec.number a).isNaN = false → (spec.number b).isNaN = true → spec.compare a b = .lt
  /-- Rows without a number come first in descending order. -/
  nanFirst : spec.comparison = .number → spec.direction = .descending → ∀ a b,
    (spec.number a).isNaN = false → (spec.number b).isNaN = true → spec.compare a b = .gt
  /-- Sorting arranges the offsets of rows, and no row before another is greater. -/
  sorts : ∀ rows offsets, (spec.arrange rows offsets).Perm offsets ∧
    (spec.arrange rows offsets).Pairwise fun a b => spec.compareAt rows a b ≠ .gt

/-- **Every column compares rows consistently**, whatever values they are. -/
theorem consistent : spec.Consistent where
  reverse a b := Std.OrientedCmp.eq_swap
  self a := Std.ReflCmp.compare_self
  notGreater a b c hab hbc := by
    have hle : (spec.compare a c).isLE := Std.TransCmp.isLE_trans
      (Ordering.isLE_iff_ne_gt.2 hab) (Ordering.isLE_iff_ne_gt.2 hbc)
    exact Ordering.isLE_iff_ne_gt.1 hle
  alike o a b c hab hbc := by
    cases o with
    | lt => exact Std.TransCmp.lt_trans hab hbc
    | eq => exact Std.TransCmp.eq_trans hab hbc
    | gt => exact Std.TransCmp.gt_trans hab hbc
  flip := spec.compare_flip
  numbers h a b ha hb := by rw [spec.compare_of_number h, SortKey.compare_ofNumber, ha, hb]
  nans h a b ha hb := by
    rw [spec.compare_of_number h, SortKey.compare_ofNumber, ha, hb]
    cases spec.direction <;> rfl
  nanLast h hd a b ha hb := by
    rw [spec.compare_of_number h, SortKey.compare_ofNumber, ha, hb, hd]
    rfl
  nanFirst h hd a b ha hb := by
    rw [spec.compare_of_number h, SortKey.compare_ofNumber, ha, hb, hd]
    rfl
  sorts rows offsets := by
    refine ⟨spec.arrange_perm rows offsets, (spec.pairwise_arrange rows offsets).imp ?_⟩
    intro a b hab
    exact (spec.inOrder_iff_compareAt rows a b).1 hab

/-- As a number a text is read and nothing is zero, and what is no number comes first in descending
order. -/
example : let compare := (SortSpec.mk "f" .descending .number).compare
    compare (.object [("f", .string " 10 ")]) (.object [("f", .int 9)]) = .lt ∧
      compare (.object []) (.object [("f", .bool false)]) = .eq ∧
      compare (.object [("f", .string "n/a")]) (.object [("f", .string " 10 ")]) = .lt := by
  decide +kernel

end SortSpec

end LiveTable.Table
