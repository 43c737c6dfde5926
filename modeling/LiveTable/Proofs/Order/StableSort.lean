/-!
# Stable sorting

Core's `List.mergeSort` is stable: elements that stand in either order keep the order they had. For
a total preorder this determines the sorted list, and sorting can be moved past other operations on
lists.

* `TotalPreorder le`: `le` is transitive and total;
* `tied le a b`: `a` and `b` stand in either order;
* `eq_of_filter_tied`: a sorted list is determined by its parts of tied elements;
* `pairwise_mergeSort_of_pairwise`: tied elements stay in the order they had;
* `filter_mergeSort`: sorting commutes with dropping elements;
* `mergeSort_mergeSort_append`: what is sorted already may be sorted again with more elements;
* `mergeSort_congr`: only the order of the elements in the list counts.
-/

namespace LiveTable.StableSort

variable {α : Type} {le : α → α → Bool}

/-- `le` is transitive and total. -/
structure TotalPreorder (le : α → α → Bool) : Prop where
  trans : ∀ a b c, le a b → le b c → le a c
  total : ∀ a b, le a b || le b a

/-- `a` and `b` stand in either order. -/
def tied (le : α → α → Bool) (a b : α) : Bool := le a b && le b a

namespace TotalPreorder

theorem refl (h : TotalPreorder le) (a : α) : le a a := by simpa using h.total a a

theorem tied_self (h : TotalPreorder le) (a : α) : tied le a a := by simp [tied, h.refl a]

/-- All elements tied with one element stand in either order. -/
theorem le_of_tied (h : TotalPreorder le) {a b c : α} (hb : tied le a b) (hc : tied le a c) :
    le b c := by
  simp only [tied, Bool.and_eq_true] at hb hc
  exact h.trans b a c hb.2 hc.1

/-- The first element of a sorted list stands before each of its elements. -/
theorem le_of_mem_cons (h : TotalPreorder le) {a b : α} {l : List α}
    (hl : (a :: l).Pairwise (le · ·)) (hb : b ∈ a :: l) : le a b := by
  rcases List.mem_cons.1 hb with rfl | hb
  · exact h.refl b
  · exact (List.pairwise_cons.1 hl).1 b hb

end TotalPreorder

/-- An element is found among the elements tied with it. -/
theorem mem_of_filter_tied (h : TotalPreorder le) {l m : List α}
    (hlm : ∀ a, l.filter (tied le a) = m.filter (tied le a)) {a : α} (ha : a ∈ l) : a ∈ m := by
  have hm : a ∈ m.filter (tied le a) := by
    rw [← hlm a]
    exact List.mem_filter.2 ⟨ha, h.tied_self a⟩
  exact (List.mem_filter.1 hm).1

/-- **A sorted list is determined by its parts of tied elements.** -/
theorem eq_of_filter_tied (h : TotalPreorder le) {l m : List α} (hl : l.Pairwise (le · ·))
    (hm : m.Pairwise (le · ·)) (hlm : ∀ a, l.filter (tied le a) = m.filter (tied le a)) :
    l = m := by
  induction l generalizing m with
  | nil =>
    cases m with
    | nil => rfl
    | cons b m =>
      cases mem_of_filter_tied h (fun a => (hlm a).symm) (List.mem_cons_self (a := b) (l := m))
  | cons a l ih =>
    cases m with
    | nil => cases mem_of_filter_tied h hlm (List.mem_cons_self (a := a) (l := l))
    | cons b m =>
      -- Each first element is in the other list too, so the two are tied, and the elements tied
      -- with them begin with `a` in one list and with `b` in the other.
      have hab : le a b := h.le_of_mem_cons hl
        (mem_of_filter_tied h (fun c => (hlm c).symm) List.mem_cons_self)
      have hba : le b a := h.le_of_mem_cons hm (mem_of_filter_tied h hlm List.mem_cons_self)
      have htied : tied le a b := by simp [tied, hab, hba]
      have hfirst := hlm a
      rw [List.filter_cons_of_pos (h.tied_self a), List.filter_cons_of_pos htied] at hfirst
      obtain ⟨rfl, -⟩ := List.cons.inj hfirst
      refine congrArg (a :: ·) (ih hl.of_cons hm.of_cons fun c => ?_)
      have hc := hlm c
      by_cases hca : tied le c a
      · rw [List.filter_cons_of_pos hca, List.filter_cons_of_pos hca] at hc
        exact (List.cons.inj hc).2
      · rwa [List.filter_cons_of_neg hca, List.filter_cons_of_neg hca] at hc

theorem pairwise_mergeSort (h : TotalPreorder le) (l : List α) :
    (l.mergeSort le).Pairwise (le · ·) :=
  List.pairwise_mergeSort h.trans h.total l

/-- Sorting keeps tied elements in the order they had. -/
theorem filter_tied_mergeSort (h : TotalPreorder le) (l : List α) (a : α) :
    (l.mergeSort le).filter (tied le a) = l.filter (tied le a) := by
  -- The tied elements are sorted as they stand, and a stable sort keeps what is sorted in order.
  have hsorted : (l.filter (tied le a)).Pairwise (le · ·) :=
    List.pairwise_of_forall_mem_list fun _ hb _ hc =>
      h.le_of_tied (List.mem_filter.1 hb).2 (List.mem_filter.1 hc).2
  have hsub : (l.filter (tied le a)).Sublist (l.mergeSort le) :=
    List.sublist_mergeSort h.trans h.total hsorted List.filter_sublist
  have hlen := ((List.mergeSort_perm l le).filter (tied le a)).length_eq
  have hsub' := hsub.filter (tied le a)
  simp only [List.filter_filter, Bool.and_self] at hsub'
  exact (hsub'.eq_of_length hlen.symm).symm

/-- **Sorting keeps the order that a list had among tied elements.** -/
theorem pairwise_mergeSort_of_pairwise (h : TotalPreorder le) {r : α → α → Prop} {l : List α}
    (hl : l.Pairwise r) : (l.mergeSort le).Pairwise fun a b => le a b ∧ (le b a → r a b) := by
  refine List.pairwise_iff_forall_sublist.2 fun {a b} hsub => ?_
  have hab : le a b := List.pairwise_iff_forall_sublist.1 (pairwise_mergeSort h l) hsub
  refine ⟨hab, fun hba => ?_⟩
  -- Tied with one another, the two stand in the part of elements tied with the first.
  have htied : tied le a b := by simp [tied, hab, hba]
  have hpart := hsub.filter (tied le a)
  rw [List.filter_cons_of_pos (h.tied_self a), List.filter_cons_of_pos htied, List.filter_nil,
    filter_tied_mergeSort h] at hpart
  exact List.pairwise_iff_forall_sublist.1 hl (hpart.trans List.filter_sublist)

/-- A sorted list with the same parts of tied elements is the sorted form of a list. -/
theorem mergeSort_eq (h : TotalPreorder le) {l m : List α} (hm : m.Pairwise (le · ·))
    (hlm : ∀ a, m.filter (tied le a) = l.filter (tied le a)) : l.mergeSort le = m :=
  eq_of_filter_tied h (pairwise_mergeSort h l) hm fun a => by
    rw [filter_tied_mergeSort h, hlm]

/-- **Sorting commutes with dropping elements.** -/
theorem filter_mergeSort (h : TotalPreorder le) (l : List α) (p : α → Bool) :
    (l.mergeSort le).filter p = (l.filter p).mergeSort le := by
  refine (mergeSort_eq h ((pairwise_mergeSort h l).filter p) fun a => ?_).symm
  rw [List.filter_filter, List.filter_filter]
  calc (l.mergeSort le).filter (fun b => tied le a b && p b)
      = ((l.mergeSort le).filter (tied le a)).filter p := by
        rw [List.filter_filter]; simp only [Bool.and_comm]
    _ = l.filter (fun b => tied le a b && p b) := by
        rw [filter_tied_mergeSort h, List.filter_filter]; simp only [Bool.and_comm]

/-- **What is sorted already may be sorted again with more elements behind it.** -/
theorem mergeSort_mergeSort_append (h : TotalPreorder le) (l m : List α) :
    (l.mergeSort le ++ m).mergeSort le = (l ++ m).mergeSort le := by
  refine mergeSort_eq h (pairwise_mergeSort h _) fun a => ?_
  rw [filter_tied_mergeSort h, List.filter_append, List.filter_append, filter_tied_mergeSort h]

/-- Only the order of the elements in the list counts. -/
theorem mergeSort_congr {le' : α → α → Bool} {l : List α}
    (hl : ∀ a ∈ l, ∀ b ∈ l, le a b = le' a b) : l.mergeSort le = l.mergeSort le' := by
  simpa using List.map_mergeSort (f := id) (r := le) (s := le') (l := l) (by simpa using hl)

end LiveTable.StableSort
