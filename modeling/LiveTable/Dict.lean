/-!
# Dictionaries

A dictionary is the list of its entries in the order in which their keys first came in.

* `Dict.get? d k`: the value under a key;
* `Dict.insert d k v`: a known key keeps its place and takes the new value, a new key comes last;
* `Dict.ofList entries`: the dictionary made by inserting the entries one by one;
* `Dict.keys d`: the keys in order.
-/

namespace LiveTable

/-- Entries in the order in which their keys first came in. -/
abbrev Dict (κ : Type) (α : Type) := List (κ × α)

namespace Dict

variable {κ α : Type} [DecidableEq κ]

/-- The value under a key. -/
def get? : Dict κ α → κ → Option α
  | [], _ => none
  | (k, v) :: d, key => if k = key then some v else get? d key

/-- The dictionary with the value `value` under `key`. -/
def insert : Dict κ α → κ → α → Dict κ α
  | [], key, value => [(key, value)]
  | (k, v) :: d, key, value => if k = key then (k, value) :: d else (k, v) :: insert d key value

/-- The dictionary made by inserting the entries one by one. -/
def ofList (entries : List (κ × α)) : Dict κ α :=
  entries.foldl (fun d (k, v) => d.insert k v) []

/-- The keys in order. -/
def keys (d : Dict κ α) : List κ := d.map (·.1)

@[simp] theorem get?_nil (key : κ) : get? ([] : Dict κ α) key = none := rfl

@[simp] theorem get?_insert (d : Dict κ α) (key other : κ) (value : α) :
    (d.insert key value).get? other = if key = other then some value else d.get? other := by
  induction d with
  | nil => simp [insert, get?]
  | cons e d ih =>
    obtain ⟨k, v⟩ := e
    by_cases hk : k = key
    · subst hk
      by_cases ho : k = other <;> simp [insert, get?, ho]
    · by_cases ho : k = other
      · subst ho
        simp [insert, get?, hk, Ne.symm hk]
      · simp [insert, get?, hk, ho, ih]

/-- A key without a value is none of the keys. -/
theorem get?_eq_none {d : Dict κ α} {key : κ} (h : key ∉ d.keys) : d.get? key = none := by
  induction d with
  | nil => rfl
  | cons e d ih =>
    obtain ⟨k, v⟩ := e
    simp only [keys, List.map_cons, List.mem_cons, not_or] at h ih
    simp [get?, Ne.symm h.1, ih h.2]

/-- A key that was not there comes last, any other keeps its place. -/
theorem keys_insert (d : Dict κ α) (key : κ) (value : α) :
    (d.insert key value).keys = if key ∈ d.keys then d.keys else d.keys ++ [key] := by
  induction d with
  | nil => simp [insert, keys]
  | cons e d ih =>
    obtain ⟨k, v⟩ := e
    by_cases hk : k = key
    · simp [insert, keys, hk]
    · simp only [keys] at ih
      by_cases hm : key ∈ List.map Prod.fst d <;> simp [insert, keys, hk, Ne.symm hk, ih, hm]

theorem mem_keys_insert {d : Dict κ α} {key other : κ} {value : α} :
    other ∈ (d.insert key value).keys ↔ other ∈ d.keys ∨ other = key := by
  rw [keys_insert]
  split
  · rename_i hkey
    exact ⟨.inl, fun h => h.elim id fun heq => heq ▸ hkey⟩
  · rw [List.mem_append, List.mem_singleton]

theorem nodup_keys_insert {d : Dict κ α} (h : d.keys.Nodup) (key : κ) (value : α) :
    (d.insert key value).keys.Nodup := by
  rw [keys_insert]
  split
  · exact h
  · rename_i hnew
    refine List.nodup_append.2
      ⟨h, List.pairwise_singleton _ key, fun other hother same hsame heq => ?_⟩
    rw [heq, List.mem_singleton.1 hsame] at hother
    exact hnew hother

theorem nodup_keys_ofList (entries : List (κ × α)) : (ofList entries).keys.Nodup := by
  have hfold : ∀ (l : List (κ × α)) (d : Dict κ α), d.keys.Nodup →
      (keys (l.foldl (fun d (k, v) => d.insert k v) d)).Nodup := by
    intro l
    induction l with
    | nil => exact fun _ hd => hd
    | cons e l ih => exact fun d hd => ih _ (nodup_keys_insert hd e.1 e.2)
  exact hfold entries [] List.nodup_nil

theorem mem_keys_of_get? {d : Dict κ α} {key : κ} {value : α} (h : d.get? key = some value) :
    key ∈ d.keys := Classical.byContradiction fun hnew => by
  rw [get?_eq_none hnew] at h
  cases h

/-- The keys are those that have a value. -/
theorem isSome_get?_iff {d : Dict κ α} {key : κ} : (d.get? key).isSome ↔ key ∈ d.keys := by
  induction d with
  | nil => simp [keys]
  | cons e d ih =>
    obtain ⟨k, v⟩ := e
    rw [get?]
    by_cases hk : k = key
    · simp [keys, hk]
    · rw [if_neg hk, ih]
      simp [keys, Ne.symm hk]

/-- If no key is there twice, every entry is found under its key. -/
theorem get?_eq_some_iff {d : Dict κ α} (h : d.keys.Nodup) {key : κ} {value : α} :
    d.get? key = some value ↔ (key, value) ∈ d := by
  induction d with
  | nil => simp
  | cons e d ih =>
    obtain ⟨k, v⟩ := e
    obtain ⟨hnew, hrest⟩ := List.nodup_cons.1 h
    rw [get?, List.mem_cons, Prod.mk.injEq]
    by_cases hk : k = key
    · subst hk
      have hnone : (k, value) ∉ d := fun hmem => hnew (List.mem_map.2 ⟨_, hmem, rfl⟩)
      simp [hnone, eq_comm]
    · rw [if_neg hk, ih hrest]
      simp [Ne.symm hk]

theorem insert_ne_nil (d : Dict κ α) (key : κ) (value : α) : d.insert key value ≠ [] := by
  cases d with
  | nil => simp [insert]
  | cons e d =>
    simp only [insert]
    split <;> simp

theorem ofList_eq_nil_iff (entries : List (κ × α)) : ofList entries = [] ↔ entries = [] := by
  have hne : ∀ (l : List (κ × α)) (d : Dict κ α), d ≠ [] →
      l.foldl (fun d (k, v) => d.insert k v) d ≠ [] := by
    intro l
    induction l with
    | nil => exact fun _ hd => hd
    | cons e l ih => exact fun d _ => ih _ (insert_ne_nil d e.1 e.2)
  cases entries with
  | nil => simp [ofList]
  | cons e l =>
    simp only [ofList, List.foldl_cons, reduceCtorEq, iff_false]
    exact hne l _ (insert_ne_nil [] e.1 e.2)

/-- Inserting entries one by one leaves the last value given for each key. -/
theorem get?_foldl_insert (entries : List (κ × α)) (d : Dict κ α) (key : κ) :
    get? (entries.foldl (fun d (k, v) => d.insert k v) d) key =
      ((entries.reverse.find? (·.1 = key)).map (·.2)).or (d.get? key) := by
  induction entries generalizing d with
  | nil => rfl
  | cons e entries ih =>
    rw [List.foldl_cons, ih, get?_insert, List.reverse_cons, List.find?_append, List.find?_singleton]
    cases entries.reverse.find? (·.1 = key) with
    | some last => rfl
    | none => by_cases hkey : e.1 = key <;> simp [hkey]

/-- The last of the entries with a key counts. -/
theorem get?_ofList (entries : List (κ × α)) (key : κ) :
    (ofList entries).get? key = (entries.reverse.find? (·.1 = key)).map (·.2) := by
  rw [ofList, get?_foldl_insert, get?_nil, Option.or_none]

/-- Inserting entries one by one brings in no others. -/
theorem mem_of_mem_ofList {entries : List (κ × α)} {e : κ × α} (h : e ∈ ofList entries) :
    e ∈ entries := by
  rw [← get?_eq_some_iff (nodup_keys_ofList entries), get?_ofList, Option.map_eq_some_iff] at h
  obtain ⟨found, hfound, hvalue⟩ := h
  have hkey : found.1 = e.1 := by simpa using List.find?_some hfound
  have hmem := List.mem_reverse.1 (List.mem_of_find?_eq_some hfound)
  rwa [show found = e from Prod.ext hkey hvalue] at hmem

/-- Inserting entries one by one leaves the first key where it is. -/
theorem head?_keys_foldl_insert (entries : List (κ × α)) (d : Dict κ α) (hd : d ≠ []) :
    (keys (entries.foldl (fun d (k, v) => d.insert k v) d)).head? = d.keys.head? := by
  induction entries generalizing d with
  | nil => rfl
  | cons e entries ih =>
    obtain ⟨first, d, rfl⟩ := List.exists_cons_of_ne_nil hd
    rw [List.foldl_cons, ih _ (insert_ne_nil _ _ _), keys_insert]
    split <;> rfl

/-- The first of the entries comes first. -/
theorem head?_keys_ofList (entries : List (κ × α)) :
    (ofList entries).keys.head? = entries.head?.map (·.1) := by
  cases entries with
  | nil => rfl
  | cons e entries =>
    rw [ofList, List.foldl_cons, head?_keys_foldl_insert _ _ (insert_ne_nil _ _ _)]
    rfl

end Dict

end LiveTable
