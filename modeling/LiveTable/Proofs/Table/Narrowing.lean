import LiveTable.Proofs.Table.SortHistory
import Mathlib.Data.List.Basic

/-!
# Searching more narrowly

A longer query shows fewer rows: whatever search texts hold it hold its parts as well. What is asked
for literally is always found, since texts and queries are put into upper case in the same way.

* `Text.upper_infix`: upper case keeps parts of texts;
* `Table.finds_search`, `Table.visible_search`: what a search finds and shows;
* `Table.Finds.of_longer`, `Table.finds_literally`: longer and literal queries;
* `Table.narrows_of_reachable`: longer queries show fewer rows, and literal ones are found.
-/

namespace LiveTable

/-- Upper case keeps parts of texts, since it maps each character on its own. -/
theorem Text.upper_infix {part whole : String} (h : part.toList <:+: whole.toList) :
    (Text.upper part).toList <:+: (Text.upper whole).toList := by
  obtain ⟨before, after, heq⟩ := h
  refine ⟨upperChars before, upperChars after, ?_⟩
  simp only [upper, String.toList_ofList, ← upperChars_append, heq]

namespace Table

variable {t : Table}

theorem query_search (t : Table) (text : String) :
    (t.search text).table.query = Text.trim text := by
  simp only [search]
  split
  · exact Eq.symm ‹_›
  · split <;> rfl

/-- What a search finds depends on the rows and on the query. -/
theorem finds_search (t : Table) (text : String) (offset : Nat) :
    (t.search text).table.Finds offset ↔ ∃ row, t.rows[offset]? = some row ∧
      (Text.upper (Text.trim text)).toList <:+: (t.textSource.text row).toList := by
  have hkeeps := keeps_search t text
  rw [Finds, query_search, hkeeps.rows, textSource, hkeeps.rows, hkeeps.setup, textSource]

/-- The rows visible after a search are those that it finds, in the order of all rows. -/
theorem visible_search (h : Reachable t) (text : String) :
    (t.search text).table.visible =
      t.arrangement.filter fun offset => (t.search text).table.Finds offset := by
  rw [(h.arranged.search text).visible_eq, arrangement_search]

/-- A longer query finds nothing that a part of it does not find. -/
theorem Finds.of_longer {query longer : String} {offset : Nat}
    (hpart : (Text.upper (Text.trim query)).toList <:+: (Text.upper (Text.trim longer)).toList)
    (h : (t.search longer).table.Finds offset) : (t.search query).table.Finds offset := by
  rw [finds_search] at h ⊢
  obtain ⟨row, hrow, hlonger⟩ := h
  exact ⟨row, hrow, hpart.trans hlonger⟩

/-- A query that stands in a row as it is written finds it. -/
theorem finds_literally {query : String} {offset : Nat} {row : Value}
    (hrow : t.rows[offset]? = some row)
    (hquery : (Text.trim query).toList <:+: (t.textSource.plainText row).toList) :
    (t.search query).table.Finds offset :=
  (finds_search t query offset).2 ⟨row, hrow, Text.upper_infix hquery⟩

/-- **Longer queries show fewer rows, and nothing asked for literally is missed.** Of two searches
of the same table, the one for the longer query shows some of the rows that the other one shows, in
the same order; upper case decides what is longer. Every row with the query as it is written in its
parts is shown. -/
theorem narrows_of_reachable (h : Reachable t) (query : String) :
    (∀ longer,
      (Text.upper (Text.trim query)).toList <:+: (Text.upper (Text.trim longer)).toList →
        (t.search longer).table.visible.Sublist (t.search query).table.visible ∧
          (t.search longer).table.visibleRows.Sublist (t.search query).table.visibleRows) ∧
    ∀ offset row, t.rows[offset]? = some row →
      (Text.trim query).toList <:+: (t.textSource.plainText row).toList →
        offset ∈ (t.search query).table.visible ∧ row ∈ (t.search query).table.visibleRows := by
  have hrows := fun text => (keeps_search t text).rows
  constructor
  · intro longer hpart
    have hvisible : (t.search longer).table.visible.Sublist (t.search query).table.visible := by
      rw [visible_search h, visible_search h]
      refine List.monotone_filter_right t.arrangement fun offset hfinds => ?_
      rw [decide_eq_true_eq] at hfinds ⊢
      exact hfinds.of_longer hpart
    refine ⟨hvisible, ?_⟩
    rw [visibleRows_eq, visibleRows_eq, hrows, hrows]
    exact hvisible.filterMap _
  · intro offset row hrow hquery
    have hvisible : offset ∈ (t.search query).table.visible :=
      (h.arranged.search query).mem_visible.2 (finds_literally hrow hquery)
    refine ⟨hvisible, ?_⟩
    rw [visibleRows_eq, List.mem_filterMap]
    exact ⟨offset, hvisible, by rw [hrows, hrow]⟩

/-- Of the films found by an `a` fewer are found by ` eat`, among them the one with this name. -/
theorem narrows_films : ∃ built, build films = .ok built ∧
    (built.table.search " eat").table.visible.Sublist (built.table.search "A").table.visible ∧
      .object [("name", .string "Heat"), ("year", .int 1995)] ∈
        (built.table.search " eat").table.visibleRows := by
  obtain ⟨built, h⟩ := exists_build_films
  have hbuilt : (build films).toOption = some built := by rw [h]; rfl
  have hrow : (build films).toOption.map (·.table.rows[0]?) =
    some (some (.object [("name", .string "Heat"), ("year", .int 1995)])) := rfl
  have hsource : (build films).toOption.map (·.table.textSource) =
    some (.fields ["name", "year"]) := rfl
  rw [hbuilt, Option.map_some, Option.some.injEq] at hrow hsource
  have hlonger : (Text.upper (Text.trim "A")).toList <:+:
      (Text.upper (Text.trim " eat")).toList := ⟨['E'], ['T'], by decide +kernel⟩
  have hliteral : (Text.trim " eat").toList <:+: ((TextSource.fields ["name", "year"]).plainText
      (.object [("name", .string "Heat"), ("year", .int 1995)])).toList :=
    ⟨['H'], " 1995".toList, by decide +kernel⟩
  refine ⟨built, h, ((narrows_of_reachable (.build h) "A").1 " eat" hlonger).1,
    ((narrows_of_reachable (.build h) " eat").2 0 _ hrow ?_).2⟩
  rwa [hsource]

end Table

end LiveTable
