import LiveTable.Proofs.Stream.Following
import LiveTable.Stream.Run

/-!
# Tables that turn rows away

A loader moves the rows of a list into a table that lets in only the rows that pass a test. The
offset of a fetch is the number of rows of the table, so a row turned away moves the offset back by
one: the fetches drift from the rows seen so far.

* `passing`, `sift`: the rows that come in with a tick and with so many ticks, said without a table;
* `mem_of_mem_sift`: only rows that pass come in;
* `sift_of_filter_prefix`: without drift, all of them do, in order;
* `filter_prefix_of_sift`: with drift they do not, if no row is there twice;
* `Sifts p t`: a table that lets in the rows that pass;
* `Loader.Reads all n l`: a loader of a list that is ready for a tick;
* `Loader.tickAlone_of_sifts`, `Loader.rows_runUpTo`: what a tick and a run make of the rows;
* `rows_runUpTo_of_sifts`: what follows for a run;
* `rows_run_reversed_films`: a row that comes in twice.
-/

namespace LiveTable.Stream

variable {all : List Value} {n : Nat} {p : Value → Bool}

/-! ### Rows that pass, window by window -/

/-- The rows that come in next behind `rows`: those of the next `n` that pass. -/
def passing (all : List Value) (n : Nat) (p : Value → Bool) (rows : List Value) : List Value :=
  ((all.drop rows.length).take n).filter p

/-- The rows there after at most so many ticks, starting with `rows`: a tick for which nothing comes
in is the last one. -/
def sift (all : List Value) (n : Nat) (p : Value → Bool) : Nat → List Value → List Value
  | 0, rows => rows
  | ticks + 1, rows =>
    if passing all n p rows = [] then rows
    else sift all n p ticks (rows ++ passing all n p rows)

theorem mem_of_mem_passing {rows : List Value} {row : Value} (h : row ∈ passing all n p rows) :
    row ∈ all ∧ p row = true := by
  rw [passing, List.mem_filter] at h
  exact ⟨List.mem_of_mem_drop (List.mem_of_mem_take h.1), h.2⟩

/-- No tick takes rows away. -/
theorem prefix_sift (ticks : Nat) (rows : List Value) : rows <+: sift all n p ticks rows := by
  induction ticks generalizing rows with
  | zero => exact List.prefix_refl rows
  | succ ticks ih =>
    rw [sift]
    split
    · exact List.prefix_refl rows
    · exact (List.prefix_append rows _).trans (ih _)

theorem append_passing_prefix_sift (ticks : Nat) (rows : List Value) :
    rows ++ passing all n p rows <+: sift all n p (ticks + 1) rows := by
  rw [sift]
  split
  · rename_i hnone
    simpa only [hnone, List.append_nil] using List.prefix_refl rows
  · exact prefix_sift ticks _

/-- **Only rows of the list that pass come in.** -/
theorem mem_of_mem_sift {ticks : Nat} {rows : List Value} (hrows : ∀ row ∈ rows, row ∈ all ∧ p row)
    {row : Value} (h : row ∈ sift all n p ticks rows) : row ∈ all ∧ p row = true := by
  induction ticks generalizing rows with
  | zero => exact hrows row h
  | succ ticks ih =>
    rw [sift] at h
    split at h
    · exact hrows row h
    · refine ih (fun row hrow => ?_) h
      rcases List.mem_append.1 hrow with hrow | hrow
      · exact hrows row hrow
      · exact mem_of_mem_passing hrow

/-- If the rows that pass come before the others, those behind `kept` come in as if there were no
others. -/
theorem passing_eq_take {kept more others : List Value} (hall : all = kept ++ more ++ others)
    (hmore : ∀ row ∈ more, p row = true) (hothers : ∀ row ∈ others, ¬p row = true) :
    passing all n p kept = more.take n := by
  have hdrop : all.drop kept.length = more ++ others := by
    rw [hall, List.append_assoc, List.drop_left]
  have hpass : (more.take n).filter p = more.take n :=
    List.filter_eq_self.2 fun row hrow => hmore row (List.mem_of_mem_take hrow)
  have hnone : (others.take (n - more.length)).filter p = [] :=
    List.filter_eq_nil_iff.2 fun row hrow => hothers row (List.mem_of_mem_take hrow)
  rw [passing, hdrop, List.take_append, List.filter_append, hpass, hnone, List.append_nil]

/-- If the rows that pass come before the others, they come in in order, and all of them after so
many ticks. -/
theorem sift_of_append {kept more others : List Value} (hall : all = kept ++ more ++ others)
    (hmore : ∀ row ∈ more, p row = true) (hothers : ∀ row ∈ others, ¬p row = true) (hn : 1 ≤ n)
    (ticks : Nat) :
    sift all n p ticks kept <+: kept ++ more ∧
      (more.length < ticks → sift all n p ticks kept = kept ++ more) := by
  induction ticks generalizing kept more with
  | zero => exact ⟨List.prefix_append kept more, fun h => absurd h (Nat.not_lt_zero _)⟩
  | succ ticks ih =>
    rw [sift, passing_eq_take hall hmore hothers]
    split
    · rename_i hnone
      obtain rfl : more = [] := by
        rcases List.take_eq_nil_iff.1 hnone with hzero | hnil
        · omega
        · exact hnil
      rw [List.append_nil]
      exact ⟨List.prefix_refl kept, fun _ => rfl⟩
    · rename_i hsome
      have hjoin : kept ++ more.take n ++ more.drop n = kept ++ more := by
        rw [List.append_assoc, List.take_append_drop]
      have hpos : more.length ≠ 0 := fun hzero => hsome (by
        rw [List.length_eq_zero_iff.1 hzero, List.take_nil])
      have hnext : all = kept ++ more.take n ++ more.drop n ++ others := by rw [hjoin, hall]
      obtain ⟨hfirst, heq⟩ := ih hnext fun row hrow => hmore row (List.mem_of_mem_drop hrow)
      rw [hjoin] at hfirst heq
      refine ⟨hfirst, fun hticks => heq ?_⟩
      rw [List.length_drop]
      omega

/-- **Without drift the rows that pass come in, in order**, and all of them in the end. -/
theorem sift_of_filter_prefix (h : all.filter p <+: all) (hn : 1 ≤ n) (ticks : Nat) :
    sift all n p ticks [] <+: all.filter p ∧
      (all.length < ticks → sift all n p ticks [] = all.filter p) := by
  obtain ⟨others, hall⟩ := h
  have hmore : ∀ row ∈ all.filter p, p row = true := fun row hrow => (List.mem_filter.1 hrow).2
  have hothers : ∀ row ∈ others, ¬p row = true := by
    have hcount := congrArg (List.countP p) hall
    rw [List.countP_append, List.countP_filter] at hcount
    simpa using hcount
  have hjoin : all = [] ++ all.filter p ++ others := hall.symm
  obtain ⟨hfirst, heq⟩ := sift_of_append hjoin hmore hothers hn ticks
  exact ⟨hfirst, fun hticks => heq (Nat.lt_of_le_of_lt (List.length_filter_le p all) hticks)⟩

/-- If rows that pass stand behind one that does not, the next fetch finds the last of them
again. -/
theorem exists_mem_passing {kept : List Value} (hkept : kept <+: all)
    (hdrift : ¬kept ++ passing all n p kept <+: all) :
    ∃ row ∈ passing all n p kept, row ∈ passing all n p (kept ++ passing all n p kept) := by
  obtain ⟨rest, rfl⟩ := hkept
  have hnext : passing (kept ++ rest) n p kept = (rest.take n).filter p := by
    rw [passing, List.drop_left]
  rw [hnext] at hdrift ⊢
  let window := rest.take n
  let taken := window.filter p
  have hagain : passing (kept ++ rest) n p (kept ++ taken) =
      ((rest.drop taken.length).take n).filter p := by
    rw [passing, List.length_append, ← List.drop_drop, List.drop_left]
  -- Were there none behind the first ones, as many as pass, these would be all that pass.
  have hbehind : ∃ row ∈ window.drop taken.length, p row = true := by
    refine Classical.byContradiction fun hexists => ?_
    have hnone : (window.drop taken.length).filter p = [] :=
      List.filter_eq_nil_iff.2 fun row hrow hpass => hexists ⟨row, hrow, hpass⟩
    have hsplit : taken = (window.take taken.length).filter p := by
      have hfilter := congrArg (List.filter p) (List.take_append_drop taken.length window)
      rw [List.filter_append, hnone, List.append_nil] at hfilter
      exact hfilter.symm
    have hall : taken = window.take taken.length := by
      refine hsplit.trans (List.filter_sublist.eq_of_length ?_)
      rw [← hsplit, List.length_take, Nat.min_eq_left (List.length_filter_le p window)]
    refine hdrift ((List.prefix_append_right_inj kept).2 ?_)
    show taken <+: rest
    rw [hall]
    exact (List.take_prefix _ _).trans (List.take_prefix _ _)
  obtain ⟨row, hrow, hpass⟩ := hbehind
  refine ⟨row, List.mem_filter.2 ⟨List.mem_of_mem_drop hrow, hpass⟩, ?_⟩
  rw [hagain, List.mem_filter]
  refine ⟨?_, hpass⟩
  rw [List.drop_take] at hrow
  exact (List.take_prefix_take_left (Nat.sub_le n taken.length)).subset hrow

/-- **With drift they do not, if no row is there twice.** -/
theorem filter_prefix_of_sift {kept : List Value} {ticks : Nat} (hnodup : all.Nodup)
    (hkept : kept <+: all) (hticks : all.length < kept.length + ticks)
    (h : sift all n p ticks kept = all.filter p) : all.filter p <+: all := by
  induction ticks generalizing kept with
  | zero =>
    rw [← h]
    exact hkept
  | succ ticks ih =>
    rw [sift] at h
    split at h
    · rw [← h]
      exact hkept
    · rename_i hsome
      by_cases hnext : kept ++ passing all n p kept <+: all
      · refine ih hnext ?_ h
        have hpos := List.length_pos_iff.2 hsome
        rw [List.length_append]
        omega
      · exfalso
        obtain ⟨row, hrow, hagain⟩ := exists_mem_passing hkept hnext
        cases ticks with
        | zero =>
          have hlength := congrArg List.length h
          have hfew := List.length_filter_le p all
          have hpos := List.length_pos_iff.2 hsome
          rw [sift, List.length_append] at hlength
          omega
        | succ ticks =>
          -- The row comes in with this tick and with the next one.
          have htwice : kept ++ passing all n p kept ++
              passing all n p (kept ++ passing all n p kept) <+: all.filter p :=
            h ▸ append_passing_prefix_sift ticks (kept ++ passing all n p kept)
          have hdisjoint := (List.nodup_append.1 (htwice.sublist.nodup (hnodup.filter p))).2.2
          exact hdisjoint row (List.mem_append_right kept hrow) row hagain rfl

/-! ### Ticks -/

/-- The table lets in the rows that pass, and its owner does not stop it. -/
structure Sifts (p : Value → Bool) (t : Table) : Prop where
  look : t.setup.beforeAdd = some fun batch => some (batch.filter p)
  goesOn : ∀ event, t.setup.stopsAfter event = false

theorem Sifts.receive {t : Table} (h : Sifts p t) (batch : List Value) :
    (t.receive batch).1 = batch.filter p := by
  rw [Table.receive, h.look]
  rfl

/-- A loader reads a list, so many rows at a time, and is ready for a tick. -/
structure Loader.Reads (all : List Value) (n : Nat) (l : Loader) : Prop where
  /-- The source has the rows of the list that a request asks for, every time. -/
  source : ∀ request, ∃ latency,
    l.source.fetch request = (.ok (request.window all), latency, l.source)
  limit : l.limit = some n
  goesOn : l.stopped = false
  idle : l.fetching = false

namespace Loader

variable {l : Loader} {t : Table}

theorem Reads.isStopped_eq (hl : l.Reads all n) (hrunning : t.stopped = false) :
    l.isStopped t .free = false := by
  simp [isStopped, hl.goesOn, hrunning]

/-- A tick delivers the upcoming rows. -/
theorem tickAlone_of_reads (hl : l.Reads all n) (ht : t.stopped = false) :
    l.tickAlone t =
      { l.deliver t (upcoming all n t) with
        notes := .fetch (l.request t) :: (l.deliver t (upcoming all n t)).notes } := by
  obtain ⟨latency, hfetch⟩ := hl.source (l.request t)
  obtain ⟨source, interval, limit, stopped, fetching⟩ := l
  obtain ⟨-, rfl, rfl, rfl⟩ := hl
  simp only [tickAlone, start, isStopped, ht, hfetch, finish]
  simp [request, Request.window, upcoming]

/-- **A tick adds the next rows that pass**, and it is the last one if there are none. -/
theorem tickAlone_of_sifts (hl : l.Reads all n) (ht : Sifts p t) (hrunning : t.stopped = false) :
    (l.tickAlone t).table.rows = t.rows ++ passing all n p t.rows ∧
      ((l.tickAlone t).tick.isFinal = true ↔ passing all n p t.rows = []) ∧
      (passing all n p t.rows ≠ [] → (l.tickAlone t).loader.Reads all n ∧
        Sifts p (l.tickAlone t).table ∧ (l.tickAlone t).table.stopped = false) := by
  rw [tickAlone_of_reads hl hrunning]
  have hreceive : (t.receive (upcoming all n t)).1 = passing all n p t.rows := ht.receive _
  have hrows := l.rows_deliver t (upcoming all n t)
  rw [hreceive] at hrows
  refine ⟨hrows, ?_⟩
  by_cases hnone : passing all n p t.rows = []
  · have hlast := (l.deliver_eq_exhausted_iff t (upcoming all n t)).2
      ⟨hreceive.trans hnone, by rw [hl.limit, Option.isSome_some]⟩
    exact ⟨by simp [hlast, hnone, Tick.isFinal], fun hsome => absurd hnone hsome⟩
  · have hdeliver := l.deliver_eq_appended (hreceive ▸ hnone)
    refine ⟨by simp [hdeliver, hnone, Tick.isFinal], fun _ => ?_⟩
    rw [hdeliver]
    refine ⟨hl, ⟨?_, ?_⟩, ?_⟩
    · exact (congrArg Table.Setup.beforeAdd (t.setup_add _)).trans ht.look
    · exact fun event => (congrArg (Table.Setup.stopsAfter · event) (t.setup_add _)).trans
        (ht.goesOn event)
    · exact (t.stopped_add (upcoming all n t) ht.goesOn).trans hrunning

/-- **The rows of a run come in window by window.** -/
theorem rows_runUpTo (hl : l.Reads all n) (ht : Sifts p t) (hrunning : t.stopped = false)
    (ticks : Nat) : (l.runUpTo ticks t).table.rows = sift all n p ticks t.rows := by
  induction ticks generalizing l t with
  | zero => rfl
  | succ ticks ih =>
    obtain ⟨hrows, hfinal, hnext⟩ := tickAlone_of_sifts hl ht hrunning
    rw [runUpTo, hl.isStopped_eq hrunning, if_neg Bool.false_ne_true, sift]
    by_cases hnone : passing all n p t.rows = []
    · rw [if_pos (hfinal.2 hnone), if_pos hnone]
      dsimp only
      rw [hrows, hnone, List.append_nil]
    · obtain ⟨hl', ht', hrunning'⟩ := hnext hnone
      rw [if_neg (mt hfinal.1 hnone), if_neg hnone, ← hrows]
      exact ih hl' ht' hrunning'

end Loader

/-! ### Runs -/

/-- The loader that a table's options ask for is ready to read a list. -/
theorem Loader.reads_ofOptions {options : Table.Options} (hlimit : options.fetchLimit = some n)
    (interval : Option Nat) : (Loader.ofOptions (.memory all) options interval).Reads all n where
  source _ := ⟨_, rfl⟩
  limit := hlimit
  goesOn := by rw [ofOptions, hlimit, Option.isNone_some]
  idle := rfl

/-- **What an undisturbed run over a list makes of a table that turns rows away.** At any time the
table holds only rows of the list that pass. If no row that does not pass stands before one that
does, they are the first of these, in order, and in the end all of them. If no row is there twice,
this is so under no other condition. -/
theorem rows_runUpTo_of_sifts (all : List Value) {t : Table} (hn : 1 ≤ n)
    (hlimit : t.setup.options.fetchLimit = some n) (ht : Sifts p t) (hempty : t.rows = [])
    (hrunning : t.stopped = false) (interval : Option Nat) :
    let rows := fun ticks =>
      ((Loader.ofOptions (.memory all) t.setup.options interval).runUpTo ticks t).table.rows
    (∀ ticks, ∀ row ∈ rows ticks, row ∈ all ∧ p row = true) ∧
      (all.filter p <+: all → ∀ ticks,
        rows ticks <+: all.filter p ∧ (all.length < ticks → rows ticks = all.filter p)) ∧
      (all.Nodup → ∀ ticks,
        all.length < ticks → rows ticks = all.filter p → all.filter p <+: all) := by
  have hrows : ∀ ticks,
      ((Loader.ofOptions (.memory all) t.setup.options interval).runUpTo ticks t).table.rows =
        sift all n p ticks [] := fun ticks => by
    rw [Loader.rows_runUpTo (Loader.reads_ofOptions hlimit interval) ht hrunning, hempty]
  simp only [hrows]
  refine ⟨fun ticks row hrow => ?_, fun hfirst => sift_of_filter_prefix hfirst hn,
    fun hnodup ticks hticks h => ?_⟩
  · exact mem_of_mem_sift (fun row hrow => absurd hrow List.not_mem_nil) hrow
  · exact filter_prefix_of_sift hnodup List.nil_prefix
      (by rwa [List.length_nil, Nat.zero_add]) h

/-- The year of a film is a number. -/
def isDated (film : Value) : Bool := (film.get "year").asString?.isNone

/-- A table that lets in the films whose year is a number. -/
def datedCinema : Table :=
  Feed.cinema.withCallbacks (some fun batch => some (batch.filter isDated)) fun _ => false

theorem sifts_datedCinema : Sifts isDated datedCinema := ⟨rfl, fun _ => rfl⟩

theorem rows_runUpTo_datedCinema :
    Table.films.rows.filter isDated <+: Table.films.rows ∧
      ((Loader.ofOptions (.memory Table.films.rows) datedCinema.setup.options none).runUpTo 4
        datedCinema).table.rows = Table.films.rows.filter isDated := by
  have hfirst : Table.films.rows.filter isDated <+: Table.films.rows := ⟨[_], rfl⟩
  have hlimit : datedCinema.setup.options.fetchLimit = some 2 := rfl
  have hrows := rows_runUpTo_of_sifts Table.films.rows (by decide) hlimit sifts_datedCinema rfl rfl
    none
  exact ⟨hfirst, (hrows.2.1 hfirst 4).2 (by decide)⟩

/-- The film that is turned away stands first, and the one behind it comes in twice. -/
theorem rows_run_reversed_films :
    Sifts isDated datedCinema ∧ datedCinema.setup.options.fetchLimit = some 2 ∧
      datedCinema.rows = [] ∧
      let ran := (Loader.ofOptions (.memory Table.films.rows.reverse) datedCinema.setup.options
        none).run datedCinema
      ran.loader.stopped = true ∧
        ran.table.rows.map (·.get "name" |>.display) = ["Ran", "Ran", "Heat"] ∧
        ran.table.rows ≠ Table.films.rows.reverse.filter isDated := by
  refine ⟨sifts_datedCinema, rfl, rfl, rfl, rfl, fun h => ?_⟩
  exact absurd (congrArg List.length h) (by decide)

end LiveTable.Stream
