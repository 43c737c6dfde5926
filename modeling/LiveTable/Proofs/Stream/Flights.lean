import LiveTable.Proofs.Stream.Stopping
import Mathlib.Data.List.Nodup

/-!
# One fetch at a time

Loaders share a table, ticks overlap, and a tick may be given up in the middle; yet no loader ever
has two fetches under way, and its flag says at any time whether it has one. Whoever sees a tick
end knows from its outcome alone what it did to the table.

* `Tick.Tells before after tick`: what an outcome says of the table before and after;
* `Loader.finish_tells`: outcomes tell the truth;
* `Feed.underWay f i`: how many fetches of a loader are under way;
* `Feed.Guarded f`: each flag counts the fetches of its loader;
* `Guarded.step`, `guarded_after`: whatever happens, that stays so;
* `Feed.isFetching_step_cases`: who sets a flag and who takes it back;
* `Feed.Orderly f`, `orderly_after`: all of this, in the words of what may happen next.
-/

namespace LiveTable.Stream

/-! ### What a tick tells -/

/-- What the outcome of a tick says of the table before and after it. -/
def Tick.Tells (before after : Table) : Tick → Prop
  | .stopped | .busy | .discarded => after = before
  | .failed | .exhausted => ∃ stopped, after = { before with stopped }
  | .appended count => 1 ≤ count ∧ ∃ rows, rows.length = count ∧ after.rows = before.rows ++ rows

namespace Loader

/-- A loader without limit has nothing to fetch and is stopped. -/
def Limited (l : Loader) : Prop := l.limit = none → l.stopped = true

theorem limited_ofOptions (source : Source) (options : Table.Options) (interval : Option Nat) :
    (ofOptions source options interval).Limited := by
  intro hlimit
  exact Option.isNone_iff_eq_none.2 hlimit

/-- A loader that goes on has a limit. -/
theorem Limited.isSome {l : Loader} (h : l.Limited) {t : Table} {hold : Hold}
    (hgoes : l.isStopped t hold = false) : l.limit.isSome := by
  rw [Option.isSome_iff_ne_none]
  intro hlimit
  rw [isStopped, h hlimit] at hgoes
  cases hgoes

/-- What delivered rows do to the table shows in the outcome: they come in, or there were none. -/
theorem deliver_tells {l : Loader} (hlimit : l.limit.isSome) (t : Table) (rows : List Value) :
    (l.deliver t rows).tick.Tells t (l.deliver t rows).table := by
  by_cases hnone : (t.receive rows).1 = []
  · rw [deliver_eq_exhausted hnone hlimit]
    exact ⟨true, rfl⟩
  · rw [deliver_eq_appended l hnone]
    refine ⟨?_, (t.receive rows).1, (t.answer_add rows).symm, t.rows_add rows⟩
    rw [t.answer_add]
    exact List.length_pos_iff.2 hnone

/-- **The outcome of a tick tells what it did to the table.** -/
theorem finish_tells {l : Loader} (h : l.Limited) (t : Table) (hold : Hold) (response : Response) :
    (l.finish t hold response).tick.Tells t (l.finish t hold response).table := by
  rcases l.finish_cases t hold response with ⟨tick, notes, htick, hfinish⟩ |
    ⟨rows, -, -, hgoes, hfinish⟩ | ⟨fault, -, -, hfinish⟩
  · rw [hfinish]
    rcases htick with rfl | rfl <;> rfl
  · have hlimit : { l with fetching := false }.limit.isSome := h.isSome hgoes
    rw [hfinish]
    exact deliver_tells hlimit t rows
  · rw [hfinish, fail, stop]
    dsimp only
    split
    · exact ⟨true, rfl⟩
    · exact ⟨t.stopped, rfl⟩

/-- A loader without limit is still stopped when its tick ends. -/
theorem Limited.finish {l : Loader} (h : l.Limited) (t : Table) (hold : Hold)
    (response : Response) : (l.finish t hold response).loader.Limited := by
  intro hlimit
  obtain ⟨stopped, hloader⟩ := l.finish_loader t hold response
  rw [hloader] at hlimit
  exact stopped_finish (h hlimit) hold response

end Loader

namespace Feed

/-! ### Flights and flags -/

/-- How many fetches of a loader are under way. -/
def underWay (f : Feed) (i : Nat) : Nat := f.flights.countP (·.loader = i)

/-- The fetches under way have numbers of their own and loaders that are there, and the flag of a
loader counts them. -/
structure Guarded (f : Feed) : Prop where
  numbered : ∀ flight ∈ f.flights, flight.number < f.next
  nodup : (f.flights.map Flight.number).Nodup
  manned : ∀ flight ∈ f.flights, flight.loader < f.loaders.length
  counted : ∀ (i : Nat) (l : Loader), f.loaders[i]? = some l → f.underWay i = l.fetching.toNat
  limited : ∀ (i : Nat) (l : Loader), f.loaders[i]? = some l → l.Limited

variable {f : Feed}

theorem Guarded.loader_of_flight? (h : f.Guarded) {number : Nat} {flight : Flight}
    (hflight : f.flight? number = some flight) : ∃ l, f.loaders[flight.loader]? = some l :=
  ⟨_, List.getElem?_eq_getElem (h.manned flight (List.mem_of_find?_eq_some hflight))⟩

/-- A fetch under way, found by its number, and the others. -/
theorem Guarded.exists_flights_eq (h : f.Guarded) {number : Nat} {flight : Flight}
    (hflight : f.flight? number = some flight) :
    ∃ a b, f.flights = a ++ flight :: b ∧ (f.forget number).flights = a ++ b := by
  obtain ⟨hnumber, a, b, hflights, ha⟩ := List.find?_eq_some_iff_append.1 hflight
  refine ⟨a, b, hflights, ?_⟩
  have hnodup := h.nodup
  rw [hflights, List.map_append, List.map_cons, List.nodup_middle, List.nodup_cons,
    ← List.map_append] at hnodup
  have hothers : ∀ other ∈ a ++ b, other.number ≠ number := by
    rintro other hother rfl
    refine hnodup.1 (List.mem_map.2 ⟨other, hother, ?_⟩)
    simpa [eq_comm] using hnumber
  have hkept : (a ++ b).filter (·.number ≠ number) = a ++ b :=
    List.filter_eq_self.2 fun other hother => by simpa using hothers other hother
  rw [List.filter_append] at hkept
  rw [forget, hflights, List.filter_append, List.filter_cons_of_neg (by simpa using hnumber), hkept]

/-- A loader stands where it was put, or it is one of the others. -/
theorem loader_set_cases {loaders : List Loader} {i j : Nat} {l m : Loader}
    (h : (loaders.set i l)[j]? = some m) : (j = i ∧ m = l) ∨ (j ≠ i ∧ loaders[j]? = some m) := by
  by_cases hij : j = i
  · subst hij
    have hj := (List.getElem?_eq_some_iff.1 h).1
    rw [List.length_set] at hj
    rw [List.getElem?_set_self hj] at h
    exact .inl ⟨rfl, (Option.some.inj h).symm⟩
  · rw [List.getElem?_set_ne (Ne.symm hij)] at h
    exact .inr ⟨hij, h⟩

/-- One loader of a feed goes over to another state. -/
theorem Guarded.of_set (h : f.Guarded) {i : Nat} {l : Loader} (hlimited : l.Limited) {g : Feed}
    (hloaders : g.loaders = f.loaders.set i l)
    (hnumbered : ∀ flight ∈ g.flights, flight.number < g.next)
    (hnodup : (g.flights.map Flight.number).Nodup)
    (hmanned : ∀ flight ∈ g.flights, flight.loader < f.loaders.length)
    (hcounted : g.underWay i = l.fetching.toNat)
    (hothers : ∀ j, j ≠ i → g.underWay j = f.underWay j) : g.Guarded where
  numbered := hnumbered
  nodup := hnodup
  manned flight hflight := by
    rw [hloaders, List.length_set]
    exact hmanned flight hflight
  counted j m hm := by
    rw [hloaders] at hm
    rcases loader_set_cases hm with ⟨rfl, rfl⟩ | ⟨hj, hm⟩
    · exact hcounted
    · rw [hothers j hj, h.counted j m hm]
  limited j m hm := by
    rw [hloaders] at hm
    rcases loader_set_cases hm with ⟨rfl, rfl⟩ | ⟨-, hm⟩
    · exact hlimited
    · exact h.limited j m hm

/-! ### What each event leaves guarded -/

theorem guarded_of (t : Table) : (of t).Guarded where
  numbered := nofun
  nodup := .nil
  manned := nofun
  counted := nofun
  limited := nofun

theorem Guarded.join (h : f.Guarded) (source : Source) (interval : Option Nat) :
    (f.join source interval).Guarded where
  numbered := h.numbered
  nodup := h.nodup
  manned flight hflight := by
    rw [Feed.join, List.length_append]
    exact Nat.lt_add_right _ (h.manned flight hflight)
  counted i l hl := by
    rw [Feed.join, List.getElem?_append] at hl
    split at hl
    · exact h.counted i l hl
    · -- nobody has fetched for a loader that was not there
      rename_i hi
      obtain rfl := List.mem_singleton.1 (List.mem_of_getElem? hl)
      refine List.countP_eq_zero.2 fun flight hflight hloader => hi ?_
      have hloader : flight.loader = i := by simpa using hloader
      exact hloader ▸ h.manned flight hflight
  limited i l hl := by
    rw [Feed.join, List.getElem?_append] at hl
    split at hl
    · exact h.limited i l hl
    · obtain rfl := List.mem_singleton.1 (List.mem_of_getElem? hl)
      exact Loader.limited_ofOptions _ _ _

/-- A tick has nothing to start, is refused and changes nothing, or is the only one of its loader
and has its fetch under way. -/
theorem start_cases (f : Feed) (i : Nat) :
    f.start i = ⟨.nothing, f, []⟩ ∨
    (∃ tick, (tick = .stopped ∨ tick = .busy) ∧ f.start i = ⟨.tick tick, f, []⟩) ∨
    ∃ l source response latency, f.loaders[i]? = some l ∧ l.fetching = false ∧
      (f.start i).answer = .flight f.next latency ∧
      (f.start i).feed = { f.setLoader i { l with source, fetching := true } with
        flights := f.flights ++ [⟨f.next, i, response⟩], next := f.next + 1 } := by
  unfold Feed.start
  split
  · exact .inl rfl
  · rename_i l hl
    rcases l.start_cases f.table f.hold with ⟨tick, htick, hstart⟩ | ⟨-, hready, -, hstart⟩
    · rw [hstart]
      exact .inr (.inl ⟨tick, htick, rfl⟩)
    · rw [hstart]
      exact .inr (.inr ⟨l, _, _, _, hl, hready, rfl, rfl⟩)

theorem Guarded.start (h : f.Guarded) (i : Nat) : (f.start i).feed.Guarded := by
  rcases f.start_cases i with heq | ⟨tick, -, heq⟩ |
    ⟨l, source, response, latency, hl, hready, -, heq⟩
  · rw [heq]
    exact h
  · rw [heq]
    exact h
  · rw [heq]
    have hi := (List.getElem?_eq_some_iff.1 hl).1
    have hcount := h.counted i l hl
    refine h.of_set ?_ rfl ?_ ?_ ?_ ?_ ?_
    · exact h.limited i l hl
    · intro flight hflight
      rcases List.mem_append.1 hflight with hflight | hflight
      · exact Nat.lt_succ_of_lt (h.numbered flight hflight)
      · obtain rfl := List.mem_singleton.1 hflight
        exact Nat.lt_succ_self f.next
    · rw [List.map_append, List.nodup_append]
      refine ⟨h.nodup, List.nodup_singleton _, ?_⟩
      -- numbers are given out in order, so the next one is new
      rintro number hnumber _ hnext rfl
      obtain ⟨flight, hflight, rfl⟩ := List.mem_map.1 hnumber
      exact Nat.ne_of_lt (h.numbered flight hflight) (List.mem_singleton.1 hnext)
    · intro flight hflight
      rcases List.mem_append.1 hflight with hflight | hflight
      · exact h.manned flight hflight
      · obtain rfl := List.mem_singleton.1 hflight
        exact hi
    · rw [hready] at hcount
      simp only [underWay, List.countP_append] at hcount ⊢
      simp [hcount]
    · intro j hj
      simp [underWay, List.countP_append, Ne.symm hj]

/-- However a tick ends, its fetch is forgotten and its loader ready. -/
theorem Guarded.ready (h : f.Guarded) {number : Nat} {flight : Flight} {l l' : Loader}
    (hflight : f.flight? number = some flight) (hl : f.loaders[flight.loader]? = some l)
    (hready : l'.fetching = false) (hlimited : l'.Limited) (t : Table) :
    { (f.forget number).setLoader flight.loader l' with table := t }.Guarded := by
  obtain ⟨a, b, hflights, hforget⟩ := h.exists_flights_eq hflight
  have hsublist : (f.forget number).flights.Sublist f.flights := List.filter_sublist
  have hcount := h.counted flight.loader l hl
  refine h.of_set hlimited rfl ?_ ?_ ?_ ?_ ?_
  · exact fun other hother => h.numbered other (hsublist.subset hother)
  · exact h.nodup.sublist (hsublist.map Flight.number)
  · exact fun other hother => h.manned other (hsublist.subset hother)
  · -- the flag counted this fetch, so it was the only one
    have hle := Bool.toNat_le l.fetching
    simp only [underWay, hflights, List.countP_append, List.countP_cons] at hcount
    simp only [underWay, setLoader, hforget, List.countP_append, hready, Bool.toNat_false]
    simp at hcount
    omega
  · intro j hj
    simp [underWay, setLoader, hforget, hflights, List.countP_append, Ne.symm hj]

theorem Guarded.land (h : f.Guarded) (number : Nat) : (f.land number).feed.Guarded := by
  unfold Feed.land
  split
  · exact h
  · rename_i flight hflight
    split
    · exact h
    · rename_i l hl
      obtain ⟨stopped, hloader⟩ := l.finish_loader f.table f.hold flight.response
      refine h.ready hflight hl ?_ ((h.limited _ l hl).finish _ _ _) _
      rw [hloader]

theorem Guarded.abandon (h : f.Guarded) (number : Nat) : (f.abandon number).Guarded := by
  unfold Feed.abandon
  split
  · exact h
  · rename_i flight hflight
    split
    · exact h
    · rename_i l hl
      have hlimited : { l with fetching := false }.Limited := h.limited _ l hl
      exact h.ready hflight hl rfl hlimited f.table

theorem Guarded.stop (h : f.Guarded) (i : Nat) : (f.stop i).Guarded := by
  unfold Feed.stop
  split
  · exact h
  · rename_i l hl
    exact h.of_set (fun _ => rfl) rfl h.numbered h.nodup h.manned (h.counted i l hl)
      fun _ _ => rfl

/-- **Each event leaves a feed guarded.** -/
theorem Guarded.step (h : f.Guarded) (e : Event) : (f.step e).feed.Guarded := by
  cases e with
  | join source interval => exact h.join source interval
  | start i => exact h.start i
  | land number => exact h.land number
  | abandon number => exact h.abandon number
  | hold hold => exact ⟨h.numbered, h.nodup, h.manned, h.counted, h.limited⟩
  | stop i => exact h.stop i
  | command command =>
    simp only [Feed.step, Feed.use]
    split
    · exact h
    · exact ⟨h.numbered, h.nodup, h.manned, h.counted, h.limited⟩

/-- **A feed stays guarded whatever happens, in any order.** -/
theorem Guarded.after (h : f.Guarded) (events : List Event) : (f.after events).Guarded := by
  induction events generalizing f with
  | nil => exact h
  | cons e events ih => exact ih (h.step e)

/-! ### Who sets a flag and who takes it back -/

theorem isFetching_of_loader {i : Nat} {l : Loader} (hl : f.loaders[i]? = some l) :
    f.isFetching i = l.fetching := by rw [isFetching, hl]

theorem isFetching_setLoader {i : Nat} {l : Loader} (hl : f.loaders[i]? = some l) (l' : Loader)
    (j : Nat) : (f.setLoader i l').isFetching j = if j = i then l'.fetching else f.isFetching j := by
  by_cases hij : j = i
  · have hj : (f.setLoader i l').loaders[j]? = some l' := by
      rw [hij, setLoader, List.getElem?_set_self (List.getElem?_eq_some_iff.1 hl).1]
    rw [isFetching_of_loader hj, if_pos hij]
  · have hj : (f.setLoader i l').loaders[j]? = f.loaders[j]? := by
      rw [setLoader, List.getElem?_set_ne (Ne.symm hij)]
    rw [isFetching, hj, if_neg hij, isFetching]

/-- The flag of a loader counts its fetches under way. -/
theorem Guarded.underWay_eq (h : f.Guarded) (i : Nat) : f.underWay i = (f.isFetching i).toNat := by
  cases hl : f.loaders[i]? with
  | some l => rw [isFetching_of_loader hl, h.counted i l hl]
  | none =>
    rw [isFetching, hl, Bool.toNat_false]
    refine List.countP_eq_zero.2 fun flight hflight hloader => ?_
    have hmanned := h.manned flight hflight
    rw [of_decide_eq_true hloader] at hmanned
    exact Nat.not_le.2 hmanned (List.getElem?_eq_none_iff.1 hl)

/-- A loader whose flag is set has a fetch under way, and no other loader has. -/
theorem Guarded.isFetching_iff (h : f.Guarded) (i : Nat) :
    f.isFetching i = true ↔ ∃ flight ∈ f.flights, flight.loader = i := by
  have hpos : 0 < f.underWay i ↔ ∃ flight ∈ f.flights, flight.loader = i := by
    simp [underWay, List.countP_pos_iff]
  rw [← hpos, h.underWay_eq]
  cases f.isFetching i <;> simp

/-- A loader that joins is ready. -/
theorem isFetching_join (f : Feed) (source : Source) (interval : Option Nat) (i : Nat) :
    (f.join source interval).isFetching i = f.isFetching i := by
  by_cases hi : i < f.loaders.length
  · rw [isFetching, join, List.getElem?_append_left hi, isFetching]
  · have hge := Nat.not_lt.1 hi
    rw [isFetching, join, List.getElem?_append_right hge, isFetching,
      List.getElem?_eq_none_iff.2 hge]
    cases i - f.loaders.length <;> rfl

/-- Whoever stops a loader leaves its flag alone. -/
theorem isFetching_stop (f : Feed) (j i : Nat) : (f.stop j).isFetching i = f.isFetching i := by
  unfold Feed.stop
  split
  · rfl
  · rename_i l hl
    have hset := isFetching_setLoader hl { l with stopped := true } i
    refine hset.trans ?_
    split
    · rename_i hij
      rw [hij, isFetching_of_loader hl]
    · rfl

/-- However the tick of a fetch ends, its loader is ready, and the flags of the others are as they
were. -/
theorem Guarded.isFetching_land (h : f.Guarded) {number : Nat} {flight : Flight}
    (hflight : f.flight? number = some flight) (i : Nat) :
    (∃ tick, (f.step (.land number)).answer = .tick tick) ∧
      (f.step (.land number)).feed.flights = (f.forget number).flights ∧
      (f.step (.land number)).feed.isFetching i =
        if i = flight.loader then false else f.isFetching i := by
  obtain ⟨l, hl⟩ := h.loader_of_flight? hflight
  obtain ⟨stopped, hloader⟩ := l.finish_loader f.table f.hold flight.response
  simp only [Feed.step, Feed.land, hflight, hl]
  refine ⟨⟨_, rfl⟩, rfl, ?_⟩
  have hset := isFetching_setLoader hl (l.finish f.table f.hold flight.response).loader i
  rw [hloader] at hset ⊢
  exact hset

theorem Guarded.isFetching_abandon (h : f.Guarded) {number : Nat} {flight : Flight}
    (hflight : f.flight? number = some flight) (i : Nat) :
    (f.step (.abandon number)).feed.flights = (f.forget number).flights ∧
      (f.step (.abandon number)).feed.isFetching i =
        if i = flight.loader then false else f.isFetching i := by
  obtain ⟨l, hl⟩ := h.loader_of_flight? hflight
  simp only [Feed.step, Feed.abandon, hflight, hl]
  exact ⟨rfl, isFetching_setLoader hl { l with fetching := false } i⟩

/-- What an event makes of the flag of a loader: nothing, or a tick of that loader starts, whose
flag was not set, or one ends. -/
theorem Guarded.isFetching_step_cases (h : f.Guarded) (e : Event) (i : Nat) :
    (f.step e).feed.isFetching i = f.isFetching i ∨
    (e = .start i ∧ f.isFetching i = false ∧
      ∃ response latency, (f.step e).answer = .flight f.next latency ∧
        (f.step e).feed.flights = f.flights ++ [⟨f.next, i, response⟩]) ∨
    ∃ number flight, (e = .land number ∨ e = .abandon number) ∧
      f.flight? number = some flight ∧ flight.loader = i := by
  cases e with
  | join source interval => exact .inl (f.isFetching_join source interval i)
  | start j =>
    rw [Feed.step]
    rcases f.start_cases j with heq | ⟨tick, -, heq⟩ |
      ⟨l, source, response, latency, hl, hready, hanswer, heq⟩
    · exact .inl (by rw [heq])
    · exact .inl (by rw [heq])
    · rw [heq]
      by_cases hij : i = j
      · subst hij
        refine .inr (.inl ⟨rfl, ?_, response, latency, hanswer, rfl⟩)
        rw [isFetching_of_loader hl, hready]
      · have hset := isFetching_setLoader hl { l with source, fetching := true } i
        rw [if_neg hij] at hset
        exact .inl hset
  | land number =>
    cases hflight : f.flight? number with
    | none => exact .inl (by simp only [Feed.step, Feed.land, hflight])
    | some flight =>
      by_cases hi : flight.loader = i
      · exact .inr (.inr ⟨number, flight, .inl rfl, hflight, hi⟩)
      · exact .inl ((h.isFetching_land hflight i).2.2.trans (if_neg (Ne.symm hi)))
  | abandon number =>
    cases hflight : f.flight? number with
    | none => exact .inl (by simp only [Feed.step, Feed.abandon, hflight])
    | some flight =>
      by_cases hi : flight.loader = i
      · exact .inr (.inr ⟨number, flight, .inr rfl, hflight, hi⟩)
      · exact .inl ((h.isFetching_abandon hflight i).2.trans (if_neg (Ne.symm hi)))
  | hold hold => exact .inl rfl
  | stop j => exact .inl (f.isFetching_stop j i)
  | command command =>
    left
    simp only [Feed.step, use]
    split <;> rfl

/-! ### What a tick tells -/

/-- Whatever ends a tick, its outcome tells what it did to the table. -/
theorem Guarded.step_tells (h : f.Guarded) {e : Event} {tick : Tick}
    (hanswer : (f.step e).answer = .tick tick) : tick.Tells f.table (f.step e).feed.table := by
  cases e with
  | start i =>
    rw [Feed.step] at hanswer ⊢
    rcases f.start_cases i with heq | ⟨tick, htick, heq⟩ | ⟨_, _, _, _, -, -, hflight, -⟩
    · rw [heq] at hanswer
      cases hanswer
    · rw [heq] at hanswer ⊢
      cases hanswer
      rcases htick with rfl | rfl <;> rfl
    · rw [hflight] at hanswer
      cases hanswer
  | land number =>
    cases hflight : f.flight? number with
    | none => simp [Feed.step, Feed.land, hflight] at hanswer
    | some flight =>
      obtain ⟨l, hl⟩ := h.loader_of_flight? hflight
      simp only [Feed.step, Feed.land, hflight, hl] at hanswer ⊢
      cases hanswer
      exact Loader.finish_tells (h.limited _ l hl) f.table f.hold flight.response
  | command command =>
    simp only [Feed.step, use] at hanswer
    split at hanswer <;> cases hanswer
  | _ => cases hanswer

/-- Loaders fetch one at a time, and ticks tell what they do. -/
structure Orderly (f : Feed) : Prop where
  /-- A loader has one fetch under way at most. -/
  single : ∀ i, f.underWay i ≤ 1
  /-- Its flag is set while it has one, and only then. -/
  flagged : ∀ i, f.isFetching i = true ↔ ∃ flight ∈ f.flights, flight.loader = i
  /-- No two fetches go by the same number. -/
  numbered : (f.flights.map Flight.number).Nodup
  /-- While a loader has a fetch under way, its ticks are refused. -/
  guards : ∀ i, f.isFetching i = true → ∃ tick, (f.step (.start i)).answer = .tick tick
  /-- A tick that is refused changes nothing. -/
  refused : ∀ i tick, (f.step (.start i)).answer = .tick tick →
    (tick = .stopped ∨ tick = .busy) ∧ (f.step (.start i)).feed = f
  /-- A flag is set by a tick of the loader that goes on to fetch, and by nothing else. -/
  sets : ∀ e i, f.isFetching i = false → (f.step e).feed.isFetching i = true →
    e = .start i ∧ ∃ response latency, (f.step e).answer = .flight f.next latency ∧
      (f.step e).feed.flights = f.flights ++ [⟨f.next, i, response⟩]
  /-- A flag is taken back by the end of that tick, and by nothing else. -/
  releases : ∀ e i, f.isFetching i = true → (f.step e).feed.isFetching i = false →
    ∃ number flight, (e = .land number ∨ e = .abandon number) ∧
      f.flight? number = some flight ∧ flight.loader = i
  /-- When an answer is there its tick ends, whatever its outcome is, and the loader is ready. -/
  lands : ∀ number flight, f.flight? number = some flight →
    (∃ tick, (f.step (.land number)).answer = .tick tick) ∧
      (f.step (.land number)).feed.flights = (f.forget number).flights ∧
      (f.step (.land number)).feed.isFetching flight.loader = false
  /-- When a tick is given up the loader is ready, too, and nothing happens to the table. -/
  abandons : ∀ number flight, f.flight? number = some flight →
    (f.step (.abandon number)).feed.table = f.table ∧
      (f.step (.abandon number)).feed.flights = (f.forget number).flights ∧
      (f.step (.abandon number)).feed.isFetching flight.loader = false
  /-- The first half of a tick does nothing to the table. -/
  starts : ∀ i, (f.step (.start i)).feed.table = f.table
  /-- The outcome of a tick tells what it did to the table. -/
  tells : ∀ e tick, (f.step e).answer = .tick tick → tick.Tells f.table (f.step e).feed.table

theorem Guarded.orderly (h : f.Guarded) : f.Orderly where
  single i := by
    rw [h.underWay_eq]
    exact Bool.toNat_le _
  flagged := h.isFetching_iff
  numbered := h.nodup
  guards i hi := by
    rw [isFetching] at hi
    split at hi
    · rename_i l hl
      rcases l.start_cases f.table f.hold with ⟨tick, -, hstart⟩ | ⟨-, hready, -, -⟩
      · exact ⟨tick, by simp only [Feed.step, Feed.start, hl, hstart]⟩
      · rw [hi] at hready
        cases hready
    · cases hi
  refused i tick hanswer := by
    rw [Feed.step] at hanswer ⊢
    rcases f.start_cases i with heq | ⟨tick, htick, heq⟩ | ⟨_, _, _, _, -, -, hflight, -⟩
    · rw [heq] at hanswer
      cases hanswer
    · rw [heq] at hanswer ⊢
      cases hanswer
      exact ⟨htick, rfl⟩
    · rw [hflight] at hanswer
      cases hanswer
  sets e i hready hset := by
    rcases h.isFetching_step_cases e i with heq | ⟨he, -, hflight⟩ | ⟨number, flight, he, hflight, rfl⟩
    · rw [heq, hready] at hset
      cases hset
    · exact ⟨he, hflight⟩
    · rcases he with rfl | rfl
      · rw [(h.isFetching_land hflight _).2.2, if_pos rfl] at hset
        cases hset
      · rw [(h.isFetching_abandon hflight _).2, if_pos rfl] at hset
        cases hset
  releases e i hset hready := by
    rcases h.isFetching_step_cases e i with heq | ⟨-, hbefore, -⟩ | hends
    · rw [heq, hset] at hready
      cases hready
    · rw [hset] at hbefore
      cases hbefore
    · exact hends
  lands number flight hflight := by
    obtain ⟨htick, hflights, hready⟩ := h.isFetching_land hflight flight.loader
    exact ⟨htick, hflights, hready.trans (if_pos rfl)⟩
  abandons number flight hflight := by
    obtain ⟨hflights, hready⟩ := h.isFetching_abandon hflight flight.loader
    exact ⟨f.table_abandon number, hflights, hready.trans (if_pos rfl)⟩
  starts := f.table_start
  tells _ _ := h.step_tells

/-- **Loaders fetch one at a time, and ticks tell what they do**, whoever shares the table, however
ticks overlap, whichever of them are given up, and whoever holds the table or stops it meanwhile. -/
theorem orderly_after (t : Table) (events : List Event) : ((of t).after events).Orderly :=
  ((guarded_of t).after events).orderly

end Feed

end LiveTable.Stream
