import LiveTable.Table.Pages
import Mathlib.Data.List.Nodup

/-!
# The window of page links

When there are more pages than may be listed, the bar lists a window of them. The window is as near
to the current page as the ends of the list of pages allow, and it always has the current page.

* `listStart count current width`: the first page listed, with a window or without;
* `listStart_add_le`, `current_listed`: what is listed are pages, the current one among them;
* `listStart_nearest`: no other window is as near to the current page;
* `Word.bounds?`: the bounds of the window in words of 64 bits, if no word overflows;
* `Word.exists_bounds`: no word overflows;
* `ListsWindow count current width start`: what the bar is to show;
* `exists_listsWindow`: the bar shows it for all numbers.
-/

namespace LiveTable.Table

variable {count current width : Nat}

/-! ### The pages listed -/

/-- The first page listed: that of the window, or of all pages if there is none. -/
def listStart (count current width : Nat) : Nat :=
  if width < count then windowStart count current width else 0

/-- Only pages are listed. -/
theorem listStart_add_le (count current width : Nat) :
    listStart count current width + min width count ≤ count := by
  unfold listStart windowStart
  split <;> omega

/-- **The current page is listed** if any page is. -/
theorem current_listed (hcurrent : current < count) (hwidth : 1 ≤ width) :
    listStart count current width ≤ current ∧
      current < listStart count current width + min width count := by
  unfold listStart windowStart
  split <;> omega

/-- The first page of the window that has half of the other pages before the current one, if there
are so many. -/
def wantedStart (current width : Nat) : Int := current - (((width + 1) / 2 : Nat) - 1 : Int)

/-- **No other window of the same length is as near to the wanted one.** -/
theorem listStart_nearest (hwidth : 1 ≤ width) {other : Nat}
    (hother : other + min width count ≤ count) (hne : other ≠ listStart count current width) :
    ((listStart count current width : Int) - wantedStart current width).natAbs <
      ((other : Int) - wantedStart current width).natAbs := by
  unfold wantedStart
  unfold listStart at hne ⊢
  by_cases h : width < count
  · rw [if_pos h, windowStart] at hne ⊢
    rw [Nat.min_eq_left (Nat.le_of_lt h)] at hother
    omega
  · -- All pages are listed, and no other window has room for as many.
    rw [if_neg h] at hne
    rw [Nat.min_eq_right (Nat.le_of_not_lt h)] at hother
    omega

/-! ### The bar -/

/-- The entry marks the current page. -/
def PageLink.isActive : PageLink → Bool
  | page _ active => active
  | _ => false

/-- The entries of a number of pages from `start` on. -/
def entries (current start length : Nat) : List PageLink :=
  (List.range' start length).map fun index => .page index (index == current)

theorem pageLinks_eq (count current width : Nat) :
    pageLinks count current width =
      (if width < count then [.first] else []) ++ [.previous] ++
        entries current (listStart count current width) (min width count) ++
        [.next] ++ (if width < count then [.last] else []) := by
  unfold pageLinks listStart
  split
  · next h => rw [Nat.min_eq_left (Nat.le_of_lt h)]; simp [entries]
  · next h => rw [Nat.min_eq_right (Nat.le_of_not_lt h)]; simp [entries]

/-- Among entries for pages one is active if the current page is one of them. -/
theorem filter_isActive_entries {start length : Nat}
    (h : start ≤ current ∧ current < start + length) :
    (entries current start length).filter PageLink.isActive = [.page current true] := by
  have hmem : current ∈ List.range' start length := List.mem_range'_1.2 h
  have hcount : (List.range' start length).count current = 1 :=
    List.count_eq_one_of_mem List.nodup_range' hmem
  have hindices : (List.range' start length).filter (· == current) = [current] := by
    rw [List.filter_beq, hcount, List.replicate_one]
  rw [entries, List.filter_map]
  show ((List.range' start length).filter (· == current)).map _ = _
  rw [hindices, List.map_singleton, beq_self_eq_true]

/-- **The current page is the only active one.** -/
theorem filter_isActive_pageLinks (hcurrent : current < count) (hwidth : 1 ≤ width) :
    (pageLinks count current width).filter PageLink.isActive = [.page current true] := by
  rw [pageLinks_eq]
  simp only [List.filter_append, filter_isActive_entries (current_listed hcurrent hwidth)]
  split <;> rfl

/-! ### In words of 64 bits -/

namespace Word

/-- The sum of two words, if that is a word. -/
def plus? (a b : UInt64) : Option UInt64 :=
  if a.toNat + b.toNat < UInt64.size then some (a + b) else none

/-- The difference of two words, if that is a word. -/
def minus? (a b : UInt64) : Option UInt64 := if b ≤ a then some (a - b) else none

/-- The difference of two words, or zero. -/
def monus (a b : UInt64) : UInt64 := if b ≤ a then a - b else 0

theorem exists_plus {a b : UInt64} (h : a.toNat + b.toNat < UInt64.size) :
    ∃ c, plus? a b = some c ∧ c.toNat = a.toNat + b.toNat :=
  ⟨a + b, if_pos h, by rw [UInt64.toNat_add]; exact Nat.mod_eq_of_lt h⟩

theorem exists_minus {a b : UInt64} (h : b ≤ a) :
    ∃ c, minus? a b = some c ∧ c.toNat = a.toNat - b.toNat :=
  ⟨a - b, if_pos h, UInt64.toNat_sub_of_le a b h⟩

theorem toNat_monus (a b : UInt64) : (monus a b).toNat = a.toNat - b.toNat := by
  unfold monus
  split
  · next h => exact UInt64.toNat_sub_of_le a b h
  · next h =>
    rw [UInt64.le_iff_toNat_le] at h
    show 0 = _
    omega

/-- Half of a word is a word, also if it is rounded up. -/
theorem exists_half (a : UInt64) :
    ∃ c, plus? (a / 2) (a % 2) = some c ∧ c.toNat = (a.toNat + 1) / 2 := by
  have hword : a.toNat < UInt64.size := a.toNat_lt_size
  have hdiv : (a / 2).toNat = a.toNat / 2 := UInt64.toNat_div a 2
  have hmod : (a % 2).toNat = a.toNat % 2 := UInt64.toNat_mod a 2
  obtain ⟨c, hc, hsum⟩ := exists_plus (a := a / 2) (b := a % 2) (by omega)
  exact ⟨c, hc, by omega⟩

/-- The bounds of the pages listed, the second one exclusive, if each sum and difference on the way
is a word. -/
def bounds? (count current width : UInt64) : Option (UInt64 × UInt64) :=
  if width < count then do
    let middle ← plus? (width / 2) (width % 2)
    let last ← minus? count width
    let start := min (monus current (monus middle 1)) last
    pure (start, ← plus? start width)
  else some (0, count)

theorem toNat_min (a b : UInt64) : (min a b).toNat = min a.toNat b.toNat := by
  show (if a ≤ b then a else b).toNat = _
  split
  · next h => exact (Nat.min_eq_left (UInt64.le_iff_toNat_le.1 h)).symm
  · next h =>
    rw [UInt64.le_iff_toNat_le] at h
    omega

/-- **No word overflows**, and the bounds are those of the pages listed. -/
theorem exists_bounds (count current width : UInt64) :
    ∃ start stop, bounds? count current width = some (start, stop) ∧
      start.toNat = listStart count.toNat current.toNat width.toNat ∧
      stop.toNat = start.toNat + min width.toNat count.toNat := by
  by_cases h : width < count
  · have hlt : width.toNat < count.toNat := UInt64.lt_iff_toNat_lt.1 h
    have hword : count.toNat < UInt64.size := count.toNat_lt_size
    obtain ⟨middle, hmiddle, hhalf⟩ := exists_half width
    obtain ⟨last, hlast, hroom⟩ := exists_minus (UInt64.le_of_lt h)
    have hstart : (min (monus current (monus middle 1)) last).toNat =
        windowStart count.toNat current.toNat width.toNat := by
      rw [toNat_min, toNat_monus, toNat_monus, hhalf, hroom]
      rfl
    obtain ⟨stop, hstop, hend⟩ := exists_plus (a := min (monus current (monus middle 1)) last)
      (b := width) (by rw [hstart]; unfold windowStart; omega)
    refine ⟨min (monus current (monus middle 1)) last, stop, ?_, ?_, ?_⟩
    · rw [bounds?, if_pos h, hmiddle, hlast]
      simp [hstop]
    · rw [hstart, listStart, if_pos hlt]
    · rw [hend, Nat.min_eq_left (Nat.le_of_lt hlt)]
  · have hle : count.toNat ≤ width.toNat := UInt64.le_iff_toNat_le.1 (UInt64.not_lt.1 h)
    refine ⟨0, count, if_neg h, ?_, ?_⟩
    · rw [listStart, if_neg (Nat.not_lt.2 hle)]
      rfl
    · rw [Nat.min_eq_right hle]
      exact (Nat.zero_add _).symm

end Word

/-! ### What the bar shows -/

/-- What the bar is to show for the page `current` of `count` pages if `width` of them may be
listed: pages from `start` on. -/
structure ListsWindow (count current width start : Nat) : Prop where
  /-- As many pages as may be listed, one after the other, with links to the pages before and after
  the current one around them, and to the first and the last page if there are more. -/
  links : pageLinks count current width =
    (if width < count then [.first] else []) ++ [.previous] ++
      entries current start (min width count) ++
      [.next] ++ (if width < count then [.last] else [])
  within : start + min width count ≤ count
  /-- The current page is listed. -/
  listed : current < count → 1 ≤ width →
    current ∈ List.range' start (min width count)
  /-- The current page is the only active one. -/
  active : current < count → 1 ≤ width →
    (pageLinks count current width).filter PageLink.isActive = [.page current true]
  /-- Every other window of the same length is further from the wanted one. -/
  nearest : 1 ≤ width → ∀ other, other + min width count ≤ count → other ≠ start →
    ((start : Int) - wantedStart current width).natAbs <
      ((other : Int) - wantedStart current width).natAbs
  /-- Words of 64 bits are enough to find the bounds of the window. -/
  words : ∀ count' current' width' : UInt64,
    count'.toNat = count → current'.toNat = current → width'.toNat = width →
      ∃ first stop, Word.bounds? count' current' width' = some (first, stop) ∧
        first.toNat = start ∧ stop.toNat = start + min width count

/-- **The bar lists the right window**, whatever the numbers. -/
theorem exists_listsWindow (count current width : Nat) :
    ∃ start, ListsWindow count current width start := by
  refine ⟨listStart count current width, ?_⟩
  constructor
  case links => exact pageLinks_eq count current width
  case within => exact listStart_add_le count current width
  case listed =>
    intro hcurrent hwidth
    exact List.mem_range'_1.2 (current_listed hcurrent hwidth)
  case active =>
    intro hcurrent hwidth
    exact filter_isActive_pageLinks hcurrent hwidth
  case nearest =>
    intro hwidth other hother hne
    exact listStart_nearest hwidth hother hne
  case words =>
    rintro count' current' width' rfl rfl rfl
    obtain ⟨first, stop, hbounds, hfirst, hstop⟩ := Word.exists_bounds count' current' width'
    exact ⟨first, stop, hbounds, hfirst, by rw [hstop, hfirst]⟩

/-- On the last but one page there is no room for as many pages behind it as before it. -/
example : pageLinks 10 8 5 =
    [.first, .previous, .page 5 false, .page 6 false, .page 7 false, .page 8 true, .page 9 false,
      .next, .last] := rfl

end LiveTable.Table
