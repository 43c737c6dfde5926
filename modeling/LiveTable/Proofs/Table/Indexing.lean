import LiveTable.Table.SearchIndex

/-!
# Indexing rows

An index that grew batch by batch is the index of all rows at once, since the first row of all
chooses the parts that make up the search texts.

* `SearchIndex.ofRows names rows`: the index of rows that came in at once;
* `SearchIndex.ofRows_extend`: more rows give the index of all rows;
* `SearchIndex.entries_ofRows`: the search texts of the rows, one for each;
* `SearchIndex.contains_ofRows`: which rows contain a query.
-/

namespace LiveTable.Table.SearchIndex

/-- The index of rows that came in at once. -/
def ofRows (names : Option (List String)) (rows : List Value) : SearchIndex :=
  empty.extend names rows

theorem extend_extend (index : SearchIndex) (names : Option (List String)) (a b : List Value) :
    (index.extend names a).extend names b = index.extend names (a ++ b) := by
  cases a with
  | nil => rfl
  | cons first a => cases b <;> simp [extend]

/-- **An index that grew batch by batch is the index of all rows at once.** -/
theorem ofRows_extend (names : Option (List String)) (rows more : List Value) :
    (ofRows names rows).extend names more = ofRows names (rows ++ more) :=
  extend_extend empty names rows more

/-- The first row chooses the parts of all search texts. -/
theorem entries_ofRows (names : Option (List String)) (rows : List Value) :
    (ofRows names rows).entries =
      rows.map (TextSource.choose (rows.headD .null) names).text := by
  cases rows <;> simp [ofRows, extend, empty]

theorem contains_iff (index : SearchIndex) (offset : Nat) (query : String) :
    index.contains offset query ↔
      ∃ text, index.entries[offset]? = some text ∧ query.toList <:+: text.toList := by
  rw [contains, entry?]
  cases index.entries[offset]? <;> simp [Text.occursIn_iff]

theorem contains_ofRows (names : Option (List String)) (rows : List Value) (offset : Nat)
    (query : String) :
    (ofRows names rows).contains offset query ↔
      ∃ row, rows[offset]? = some row ∧
        query.toList <:+: ((TextSource.choose (rows.headD .null) names).text row).toList := by
  simp only [contains_iff, entries_ofRows, List.getElem?_map, Option.map_eq_some_iff]
  constructor
  · rintro ⟨_, ⟨row, hrow, rfl⟩, hquery⟩
    exact ⟨row, hrow, hquery⟩
  · rintro ⟨row, hrow, hquery⟩
    exact ⟨_, ⟨row, hrow, rfl⟩, hquery⟩

end LiveTable.Table.SearchIndex
