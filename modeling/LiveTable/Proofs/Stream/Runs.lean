import Mathlib.Algebra.Order.Floor.Div
import LiveTable.Proofs.Stream.Draining

/-!
# How long a run lasts

A run goes on until the outcome of a tick ends it; no number of ticks is set beforehand. When nobody
disturbs a loader that moves a list into a table, it makes one fetch for each window of rows that is
left and one more, which finds none and stops the loader and the table.

* `Loader.Ends ticks l t r`: the ticks of a run, followed until one is final;
* `Ends.unique`, `Ends.runUpTo_eq`: a run ends in one way, and so do enough ticks;
* `Feed.alone`, `Ends.after_eq`: such a run as events of a feed on which nothing else happens;
* `Run.requests`: what a source is asked for during a run;
* `windows`, `fetchOffsets`: how many windows of a list are left, and where the fetches start;
* `Loader.Drains all n l t r`: the run fetches what is left of the list, and no more;
* `Drains.dry`, `Drains.more`: what the last tick and any other one add to that;
* `Loader.drains_run`: an undisturbed run over a list does so.

The rows of the list beyond those of the table become fewer with each tick but the last, and the
recursion of `fetchOffsets` takes the same steps.
-/

namespace LiveTable.Stream

variable {all : List Value} {n : Nat}

/-! ### Runs without a bound -/

namespace Loader

variable {l : Loader} {t : Table}

/-- A run that starts with the loader and the table comes to an end after so many ticks. -/
inductive Ends : Nat → Loader → Table → Run → Prop where
  /-- There is no tick for a loader that has been stopped. -/
  | stopped {l : Loader} {t : Table} (hstopped : l.isStopped t .free = true) : Ends 0 l t ⟨l, t, []⟩
  /-- A final tick ends the run. -/
  | last {l : Loader} {t : Table} (hgoing : l.isStopped t .free = false)
      (hfinal : (l.tickAlone t).tick.isFinal = true) :
      Ends 1 l t ⟨(l.tickAlone t).loader, (l.tickAlone t).table, (l.tickAlone t).notes⟩
  /-- After any other tick the run goes on. -/
  | more {ticks : Nat} {l : Loader} {t : Table} {rest : Run} (hgoing : l.isStopped t .free = false)
      (hfinal : (l.tickAlone t).tick.isFinal = false)
      (hrest : Ends ticks (l.tickAlone t).loader (l.tickAlone t).table rest) :
      Ends (ticks + 1) l t { rest with notes := (l.tickAlone t).notes ++ rest.notes }

/-- Enough ticks are as many as the run needs. -/
theorem Ends.runUpTo_eq {ticks fuel : Nat} {r : Run} (h : Ends ticks l t r) (hfuel : ticks ≤ fuel) :
    l.runUpTo fuel t = r := by
  induction h generalizing fuel with
  | stopped hstopped =>
    cases fuel with
    | zero => rfl
    | succ fuel => rw [runUpTo, if_pos hstopped]
  | last hgoing hfinal =>
    obtain ⟨fuel, rfl⟩ := Nat.exists_eq_add_of_le' hfuel
    rw [runUpTo, hgoing, if_neg Bool.false_ne_true, if_pos hfinal]
  | more hgoing hfinal hrest ih =>
    obtain ⟨fuel, rfl⟩ := Nat.exists_eq_add_of_le' hfuel
    rw [← Nat.add_assoc, runUpTo, hgoing, if_neg Bool.false_ne_true]
    simp only [hfinal, if_neg Bool.false_ne_true, ih (Nat.le_add_left _ fuel)]

/-- **A run ends in one way.** -/
theorem Ends.unique {a b : Nat} {r s : Run} (h : Ends a l t r) (h' : Ends b l t s) :
    a = b ∧ r = s := by
  refine ⟨?_, (h.runUpTo_eq (Nat.le_max_left a b)).symm.trans
    (h'.runUpTo_eq (Nat.le_max_right a b))⟩
  induction h generalizing b s with
  | stopped hstopped =>
    cases h' with
    | stopped => rfl
    | last hgoing | more hgoing => exact absurd (hstopped.symm.trans hgoing) (by decide)
  | last hgoing hfinal =>
    cases h' with
    | stopped hstopped => exact absurd (hstopped.symm.trans hgoing) (by decide)
    | last => rfl
    | more _ hfinal' => exact absurd (hfinal.symm.trans hfinal') (by decide)
  | more hgoing hfinal hrest ih =>
    cases h' with
    | stopped hstopped => exact absurd (hstopped.symm.trans hgoing) (by decide)
    | last _ hfinal' => exact absurd (hfinal'.symm.trans hfinal) (by decide)
    | more _ _ hrest' => rw [ih hrest']

end Loader

/-! ### Runs as events -/

namespace Loader

variable {l : Loader} {t : Table}

/-- With nobody else at the table the second half of a tick follows the first one. -/
theorem tickAlone_eq (hgoing : l.isStopped t .free = false) (hidle : l.fetching = false) :
    let fetched := l.source.fetch (l.request t)
    let done := { l with source := fetched.2.2, fetching := true }.finish t .free fetched.1
    l.tickAlone t = { done with notes := .fetch (l.request t) :: done.notes } := by
  rw [tickAlone, start, hgoing, if_neg Bool.false_ne_true, if_neg (by simp [hidle])]

theorem fetching_tickAlone (hgoing : l.isStopped t .free = false) (hidle : l.fetching = false) :
    (l.tickAlone t).loader.fetching = false := by
  rw [tickAlone_eq hgoing hidle]
  obtain ⟨stopped, h⟩ := finish_loader _ t .free (l.source.fetch (l.request t)).1
  exact congrArg Loader.fetching h

end Loader

namespace Feed

variable {l : Loader} {t : Table}

/-- A table with one loader that has nothing under way, before the fetch with a number. -/
def alone (l : Loader) (t : Table) (next : Nat) : Feed := ⟨t, .free, [l], [], next⟩

/-- The events of a tick if nothing else happens. -/
def tickEvents (number : Nat) : List Event := [.start 0, .land number]

theorem after_tickEvents (hgoing : l.isStopped t .free = false) (hidle : l.fetching = false)
    (next : Nat) :
    (alone l t next).after (tickEvents next) =
      alone (l.tickAlone t).loader (l.tickAlone t).table (next + 1) := by
  have hstart : (alone l t next).step (.start 0) =
      ⟨.flight next (l.source.fetch (l.request t)).2.1,
        ⟨t, .free, [{ l with source := (l.source.fetch (l.request t)).2.2, fetching := true }],
          [⟨next, 0, (l.source.fetch (l.request t)).1⟩], next + 1⟩, [.fetch (l.request t)]⟩ := by
    simp only [step, Feed.start, alone, List.getElem?_cons_zero, Loader.start, hgoing]
    simp [hidle, setLoader]
  rw [tickEvents, after_cons, after_cons, after_nil, hstart, Loader.tickAlone_eq hgoing hidle]
  simp [step, land, flight?, forget, setLoader, alone]

end Feed

/-- **A run is ticks one after the other**, with nothing in between. -/
theorem Loader.Ends.after_eq {ticks : Nat} {l : Loader} {t : Table} {r : Loader.Run}
    (h : l.Ends ticks t r) (hidle : l.fetching = false) (next : Nat) :
    (Feed.alone l t next).after ((List.range' next ticks).flatMap Feed.tickEvents) =
      Feed.alone r.loader r.table (next + ticks) := by
  induction h generalizing next with
  | stopped => rfl
  | last hgoing => exact Feed.after_tickEvents hgoing hidle next
  | more hgoing hfinal hrest ih =>
    rw [List.range'_succ, List.flatMap_cons, Feed.after_append, Feed.after_tickEvents hgoing hidle,
      ih (fetching_tickAlone hgoing hidle), Nat.add_assoc, Nat.add_comm 1]

/-! ### Fetches -/

/-- What a source was asked for, if that is what is told. -/
def Note.request? : Note → Option Request
  | .fetch request => some request
  | .failed _ | .table _ => none

/-- What the source was asked for during a run, one request for each fetch. -/
def Loader.Run.requests (r : Run) : List Request := r.notes.filterMap Note.request?

/-- A tick that adds rows is one fetch; what the table tells about it is none. -/
theorem Loader.Run.requests_more (request : Request) (notices : List Table.Notice)
    (rest : Loader.Run) :
    { rest with notes := Note.fetch request :: notices.map Note.table ++ rest.notes }.requests =
      request :: rest.requests := by
  have hnone : (notices.map Note.table).filterMap Note.request? = [] := by
    rw [List.filterMap_map, List.filterMap_eq_nil_iff]
    intro notice _
    rfl
  simp only [requests, List.cons_append, List.filterMap_cons, Note.request?, List.filterMap_append,
    hnone, List.nil_append]

/-! ### Windows of a list -/

/-- How many windows of `n` rows are left of `total` rows behind the first `k`. -/
def windows (total n k : Nat) : Nat := (total - min k total) ⌈/⌉ n

/-- Where the fetch with the number `i` starts if the first one starts behind `k` rows. The first
one does so even if these are more than `total`. -/
def fetchOffset (total n k i : Nat) : Nat := if i = 0 then k else min (k + i * n) total

/-- Where the fetches start: one for each window that is left, and one behind all rows. -/
def fetchOffsets (total n k : Nat) : List Nat :=
  (List.range (windows total n k + 1)).map (fetchOffset total n k)

section Windows

variable {total k : Nat}

theorem windows_of_le (h : total ≤ k) : windows total n k = 0 := by
  rw [windows, Nat.min_eq_right h, Nat.sub_self, zero_ceilDiv]

/-- There is one window more than behind the next one. -/
theorem windows_of_lt (hn : 1 ≤ n) (h : k < total) :
    windows total n k = windows total n (min (k + n) total) + 1 := by
  simp only [windows, Nat.ceilDiv_eq_add_pred_div]
  rw [← Nat.add_div_right _ hn]
  by_cases hlast : total ≤ k + n
  · -- The next window is the last one, and it may be shorter than the others.
    have hone : (total - min k total + n - 1) / n = 1 := by
      rw [Nat.div_eq_iff hn]
      omega
    have hnext : (total - min (min (k + n) total) total + n - 1 + n) / n = 1 := by
      rw [Nat.div_eq_iff hn]
      omega
    rw [hone, hnext]
  · congr 1
    omega

/-- Each window has at least one row. -/
theorem windows_le (hn : 1 ≤ n) : windows total n k ≤ total := by
  rw [windows, ceilDiv_le_iff_le_mul hn]
  exact (Nat.sub_le _ _).trans (Nat.le_mul_of_pos_left total hn)

/-- The windows hold all rows that are left. -/
theorem le_windows_mul (hn : 1 ≤ n) : total - min k total ≤ windows total n k * n := by
  rw [Nat.mul_comm]
  exact le_smul_ceilDiv (Nat.lt_of_lt_of_le Nat.one_pos hn)

theorem fetchOffset_succ (i : Nat) :
    fetchOffset total n k (i + 1) = fetchOffset total n (min (k + n) total) i := by
  cases i with
  | zero =>
    rw [fetchOffset, if_neg Nat.one_ne_zero, Nat.zero_add, Nat.one_mul, fetchOffset, if_pos rfl]
  | succ i =>
    have hmul : (i + 1 + 1) * n = (i + 1) * n + n := Nat.succ_mul _ _
    simp only [fetchOffset]
    rw [if_neg (Nat.succ_ne_zero _), if_neg (Nat.succ_ne_zero _), hmul]
    omega

theorem length_fetchOffsets : (fetchOffsets total n k).length = windows total n k + 1 := by
  rw [fetchOffsets, List.length_map, List.length_range]

theorem fetchOffsets_of_le (h : total ≤ k) : fetchOffsets total n k = [k] := by
  rw [fetchOffsets, windows_of_le h]
  rfl

theorem fetchOffsets_of_lt (hn : 1 ≤ n) (h : k < total) :
    fetchOffsets total n k = k :: fetchOffsets total n (min (k + n) total) := by
  rw [fetchOffsets, windows_of_lt hn h, List.range_succ_eq_map, List.map_cons, List.map_map]
  congr 1
  exact List.map_congr_left fun i _ => fetchOffset_succ i

/-- **The last fetch starts behind all rows.** -/
theorem getLast?_fetchOffsets (hn : 1 ≤ n) :
    (fetchOffsets total n k).getLast? = some (max k total) := by
  have hleft : total - min k total ≤ windows total n k * n := le_windows_mul hn
  rw [fetchOffsets, List.getLast?_map, List.getLast?_range, if_neg (Nat.succ_ne_zero _),
    Option.map_some, Nat.add_sub_cancel, fetchOffset]
  by_cases hnone : windows total n k = 0
  · rw [hnone, Nat.zero_mul] at hleft
    rw [if_pos hnone]
    congr 1
    omega
  · have hk : k < total := by
      by_contra hle
      exact hnone (windows_of_le (Nat.le_of_not_lt hle))
    rw [if_neg hnone]
    congr 1
    omega

end Windows

/-! ### Runs over a list -/

namespace Loader

variable {l : Loader} {t : Table}

/-- The run fetches the rows of the list behind those of the table, so many at a time, and no
more. -/
structure Drains (all : List Value) (n : Nat) (l : Loader) (t : Table) (r : Run) : Prop where
  /-- It ends by itself, after a tick for each window that is left and one more. -/
  ends : Ends (windows all.length n t.rows.length + 1) l t r
  requests : r.requests =
    (fetchOffsets all.length n t.rows.length).map fun offset => ⟨t.query, some n, offset⟩
  rows : r.table.rows = t.rows ++ all.drop t.rows.length
  loader : r.loader.stopped = true
  table : r.table.stopped = true

theorem Reads.request_eq (hl : l.Reads all n) (t : Table) :
    l.request t = ⟨t.query, some n, t.rows.length⟩ := by
  rw [request, hl.limit]

/-- **The last tick**: the table holds as many rows as the list. -/
theorem Drains.dry (hl : l.Reads all n) (hlook : t.setup.beforeAdd = none)
    (hrunning : t.stopped = false) (hdry : all.length ≤ t.rows.length) :
    l.Drains all n t ⟨{ l with stopped := true }, t.stop, [.fetch (l.request t)]⟩ := by
  have htick := tickAlone_of_dry hl hlook hrunning hdry
  have hlast : Ends 1 l t ⟨(l.tickAlone t).loader, (l.tickAlone t).table, (l.tickAlone t).notes⟩ :=
    .last (hl.isStopped_eq hrunning) (by rw [htick]; rfl)
  rw [htick] at hlast
  constructor
  case ends =>
    rw [windows_of_le hdry]
    exact hlast
  case requests =>
    rw [fetchOffsets_of_le hdry, hl.request_eq]
    rfl
  case rows => rw [List.drop_eq_nil_of_le hdry, List.append_nil]; rfl
  case loader => rfl
  case table => rfl

/-- **Any other tick** adds the upcoming rows, and the rest of the run fetches what is left then. -/
theorem Drains.more (hl : l.Reads all n) (hn : 1 ≤ n) (hlook : t.setup.beforeAdd = none)
    (hrunning : t.stopped = false) (hleft : t.rows.length < all.length) {rest : Run}
    (hrest : l.Drains all n (t.add (upcoming all n t)).table rest) :
    l.Drains all n t { rest with notes := (l.tickAlone t).notes ++ rest.notes } := by
  have htick := tickAlone_of_left hl hn hlook hrunning hleft
  have hrows : (t.add (upcoming all n t)).table.rows = t.rows ++ upcoming all n t :=
    rows_add_upcoming hlook
  have hlength : (t.add (upcoming all n t)).table.rows.length =
      min (t.rows.length + n) all.length := length_rows_add_upcoming hlook hleft.le
  have hquery : (t.add (upcoming all n t)).table.query = t.query := (t.sameView_add _).query
  have hticks := hrest.ends
  have hrequests := hrest.requests
  have hadded := hrest.rows
  rw [hlength] at hticks
  rw [hlength, hquery] at hrequests
  rw [hrows, List.append_assoc, upcoming_append_drop] at hadded
  constructor
  case ends =>
    rw [windows_of_lt hn hleft]
    refine .more (hl.isStopped_eq hrunning) (by rw [htick]; rfl) ?_
    rw [htick]
    exact hticks
  case requests =>
    rw [htick, Run.requests_more, hrequests, hl.request_eq, fetchOffsets_of_lt hn hleft,
      List.map_cons]
  case rows => exact hadded
  case loader => exact hrest.loader
  case table => exact hrest.table

/-- The rows that are left become fewer with each tick but the last, so there is a last one. -/
theorem exists_drains (hl : l.Reads all n) (hn : 1 ≤ n) (hlook : t.setup.beforeAdd = none)
    (hgoes : ∀ event, t.setup.stopsAfter event = false) (hrunning : t.stopped = false) :
    ∃ r, l.Drains all n t r := by
  induction hleft : all.length - t.rows.length using Nat.strong_induction_on generalizing t with
  | _ left ih =>
    by_cases hdry : all.length ≤ t.rows.length
    · exact ⟨_, .dry hl hlook hrunning hdry⟩
    · have hmore : t.rows.length < all.length := Nat.lt_of_not_le hdry
      have hfewer : all.length - (t.add (upcoming all n t)).table.rows.length < left := by
        rw [length_rows_add_upcoming hlook hmore.le]
        omega
      obtain ⟨rest, hrest⟩ := ih _ hfewer (by rw [Table.setup_add, hlook])
        (by rw [Table.setup_add]; exact hgoes) ((t.stopped_add _ hgoes).trans hrunning) rfl
      exact ⟨_, .more hl hn hlook hrunning hmore hrest⟩

/-- **An undisturbed run over a list ends by itself after exactly the fetches it needs.** A table
that takes all rows starts with `k` of them and nobody stops it or its loader. There is one fetch
for each window of `n` rows that is left of the list behind the first `k`, and one more; they start
behind the `k` rows, then behind as many as the table holds in between, and the last one behind all
rows. The table gets the rows of the list from the position `k` on, and in the end the loader and
the table have been stopped. The run ends in no other way, and it is what comes of a feed on which
nothing happens but that these fetches start and land. -/
theorem drains_run (hsource : l.source = .memory all) (hlimit : l.limit = some n) (hn : 1 ≤ n)
    (hgoing : l.isStopped t .free = false) (hidle : l.fetching = false)
    (hlook : t.setup.beforeAdd = none) (hgoes : ∀ event, t.setup.stopsAfter event = false) :
    l.Drains all n t (l.run t) ∧
      (l.run t).requests.length =
        (all.length - min t.rows.length all.length) ⌈/⌉ n + 1 ∧
      (l.run t).requests.getLast?.map (·.offset) = some (l.run t).table.rows.length ∧
      (∀ ticks r, l.Ends ticks t r → ticks = (l.run t).requests.length ∧ r = l.run t) ∧
      ∀ next, (Feed.alone l t next).after
          ((List.range' next (l.run t).requests.length).flatMap Feed.tickEvents) =
        Feed.alone (l.run t).loader (l.run t).table (next + (l.run t).requests.length) := by
  have hflags : l.stopped = false ∧ t.stopped = false := by simpa [isStopped] using hgoing
  have hl : l.Reads all n :=
    { source := fun request => ⟨_, by rw [hsource, Source.fetch_memory]⟩
      limit := hlimit
      goesOn := hflags.1
      idle := hidle }
  obtain ⟨r, hr⟩ := exists_drains hl hn hlook hgoes hflags.2
  have hfuel : windows all.length n t.rows.length + 1 ≤ l.source.size + 1 := by
    rw [hsource]
    exact Nat.succ_le_succ (windows_le hn)
  have hrun : l.run t = r := hr.ends.runUpTo_eq hfuel
  have hfetches : r.requests.length = windows all.length n t.rows.length + 1 := by
    rw [hr.requests, List.length_map, length_fetchOffsets]
  rw [hrun, hfetches]
  refine ⟨hr, rfl, ?_, ?_, ?_⟩
  · rw [hr.requests, List.getLast?_map, getLast?_fetchOffsets hn, hr.rows, List.length_append,
      List.length_drop]
    simp only [Option.map_some]
    congr 1
    omega
  · intro ticks r' hends
    exact hends.unique hr.ends
  · intro next
    exact hr.ends.after_eq hidle next

end Loader

/-- The cinema asks for the first two films, then for the third one, and then there are no more. -/
theorem drains_run_cinema :
    let l := Loader.ofOptions (.memory Table.films.rows) Feed.cinema.setup.options none
    l.isStopped Feed.cinema .free = false ∧
      l.Drains Table.films.rows 2 Feed.cinema (l.run Feed.cinema) ∧
      (l.run Feed.cinema).requests.map (·.offset) = [0, 2, 3] := by
  intro l
  have hsource : l.source = .memory Table.films.rows := rfl
  have hlimit : l.limit = some 2 := rfl
  have hdrains := Loader.drains_run (t := Feed.cinema) hsource hlimit (by decide) rfl rfl rfl
    fun _ => rfl
  refine ⟨rfl, hdrains.1, ?_⟩
  rw [hdrains.1.requests]
  rfl

end LiveTable.Stream
