import LiveTable.Proofs.Order.StableSort
import LiveTable.Table.SortSpec
import Mathlib.Tactic.SplitIfs

/-!
# The order of rows

Every sort column puts rows in a total preorder, whatever their values are, so that the stable sort
of offsets by a column has the laws of a stable sort.

* `SortKey.compare`, `SortSpec.compareKeys` are transitive comparisons;
* `SortSpec.inOrder_totalPreorder`: rows are ordered totally;
* `SortSpec.arrange_perm`, `SortSpec.pairwise_arrange`: sorting arranges and sorts;
* `SortSpec.pairwise_arrange_of_pairwise`: what a sort ties stands as it stood;
* `SortSpec.filter_arrange`: what a sort arranges may be filtered before or after it;
* `SortSpec.arrange_arrange_append`: sorting batch by batch is sorting once;
* `SortSpec.arrange_append_rows`: rows that come later do not disturb the others.
-/

namespace LiveTable.Table

open StableSort

namespace SortKey

theorem compare_swap (a b : SortKey) : a.compare b = (b.compare a).swap := by
  cases a <;> cases b <;> simp only [compare]
  case number.number => exact Std.OrientedOrd.eq_swap
  case text.text => exact Std.OrientedOrd.eq_swap
  all_goals rfl

instance : Std.OrientedCmp compare where
  eq_swap := compare_swap _ _

instance : Std.TransCmp compare where
  isLE_trans {a b c} hab hbc := by
    cases a <;> cases b <;> cases c <;> simp only [compare] at *
    case number.number.number => exact Std.TransOrd.isLE_trans hab hbc
    case text.text.text => exact Std.TransOrd.isLE_trans hab hbc
    all_goals first | rfl | contradiction

end SortKey

namespace SortSpec

variable (spec : SortSpec)

/-- Descending keys compare as the ascending ones the other way round. -/
theorem compareKeys_eq (a b : SortKey) :
    spec.compareKeys a b =
      if spec.direction = .ascending then a.compare b else b.compare a := by
  rw [SortKey.compare_swap b a, compareKeys]
  cases spec.direction <;> rfl

instance : Std.OrientedCmp spec.compareKeys where
  eq_swap {a b} := by
    simp only [compareKeys_eq]
    split <;> exact SortKey.compare_swap _ _

instance : Std.TransCmp spec.compareKeys where
  isLE_trans {a b c} hab hbc := by
    simp only [compareKeys_eq] at *
    split_ifs at *
    · exact Std.TransCmp.isLE_trans hab hbc
    · exact Std.TransCmp.isLE_trans hbc hab

theorem inOrder_iff (rows : List Value) (a b : Nat) :
    spec.inOrder rows a b ↔ spec.compare ((rows[a]?).getD .null) ((rows[b]?).getD .null) ≠ .gt := by
  simp [inOrder]

/-- **A sort column orders rows totally.** -/
theorem inOrder_totalPreorder (rows : List Value) : TotalPreorder (spec.inOrder rows) where
  trans a b c hab hbc := by
    simp only [inOrder_iff, ← Ordering.isLE_iff_ne_gt, compare] at *
    exact Std.TransCmp.isLE_trans hab hbc
  total a b := by
    simp only [Bool.or_eq_true, inOrder_iff, compare]
    have hswap := @Std.OrientedCmp.eq_swap _ spec.compareKeys _
    rw [hswap]
    cases spec.compareKeys _ _ <;> simp

/-! ### Sorting offsets -/

theorem arrange_perm (rows : List Value) (offsets : List Nat) :
    (spec.arrange rows offsets).Perm offsets := by
  rw [arrange_eq_mergeSort]
  exact List.mergeSort_perm _ _

@[simp] theorem arrange_nil (rows : List Value) : spec.arrange rows [] = [] := by
  simp [arrange_eq_mergeSort]

@[simp] theorem length_arrange (rows : List Value) (offsets : List Nat) :
    (spec.arrange rows offsets).length = offsets.length :=
  (spec.arrange_perm rows offsets).length_eq

theorem pairwise_arrange (rows : List Value) (offsets : List Nat) :
    (spec.arrange rows offsets).Pairwise (spec.inOrder rows · ·) := by
  rw [arrange_eq_mergeSort]
  exact pairwise_mergeSort (spec.inOrder_totalPreorder rows) offsets

/-- How the rows at two offsets stand to each other. -/
def compareAt (rows : List Value) (a b : Nat) : Ordering :=
  spec.compare ((rows[a]?).getD .null) ((rows[b]?).getD .null)

theorem inOrder_iff_compareAt (rows : List Value) (a b : Nat) :
    spec.inOrder rows a b ↔ spec.compareAt rows a b ≠ .gt := spec.inOrder_iff rows a b

theorem compareAt_swap (rows : List Value) (a b : Nat) :
    spec.compareAt rows b a = (spec.compareAt rows a b).swap :=
  @Std.OrientedCmp.eq_swap _ spec.compareKeys _ _ _

/-- **Sorting puts rows in the order of the column and leaves those that it ties as they
stood.** -/
theorem pairwise_arrange_of_pairwise (rows : List Value) {stood : Nat → Nat → Prop}
    {offsets : List Nat} (h : offsets.Pairwise stood) :
    (spec.arrange rows offsets).Pairwise fun a b =>
      spec.compareAt rows a b = .lt ∨ spec.compareAt rows a b = .eq ∧ stood a b := by
  rw [arrange_eq_mergeSort]
  refine (pairwise_mergeSort_of_pairwise (spec.inOrder_totalPreorder rows) h).imp
    fun {a b} ⟨hab, hstood⟩ => ?_
  rw [inOrder_iff_compareAt] at hab hstood
  rw [compareAt_swap] at hstood
  cases hcompare : spec.compareAt rows a b with
  | lt => exact .inl rfl
  | eq => exact .inr ⟨rfl, hstood (by rw [hcompare]; decide)⟩
  | gt => exact absurd hcompare hab

/-- Offsets may be left out before or after sorting. -/
theorem filter_arrange (rows : List Value) (offsets : List Nat) (p : Nat → Bool) :
    (spec.arrange rows offsets).filter p = spec.arrange rows (offsets.filter p) := by
  simp only [arrange_eq_mergeSort]
  exact filter_mergeSort (spec.inOrder_totalPreorder rows) offsets p

/-- Offsets that are sorted may be sorted again with more offsets behind them. -/
theorem arrange_arrange_append (rows : List Value) (offsets more : List Nat) :
    spec.arrange rows (spec.arrange rows offsets ++ more) =
      spec.arrange rows (offsets ++ more) := by
  simp only [arrange_eq_mergeSort]
  exact mergeSort_mergeSort_append (spec.inOrder_totalPreorder rows) offsets more

/-- Rows that come later do not change how the rows before them are sorted. -/
theorem arrange_append_rows (rows more : List Value) {offsets : List Nat}
    (h : ∀ o ∈ offsets, o < rows.length) :
    spec.arrange (rows ++ more) offsets = spec.arrange rows offsets := by
  simp only [arrange_eq_mergeSort]
  refine mergeSort_congr fun a ha b hb => ?_
  simp only [inOrder, List.getElem?_append_left (h a ha), List.getElem?_append_left (h b hb)]

end SortSpec

end LiveTable.Table
