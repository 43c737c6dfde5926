import LiveTable.Proofs.Stream.Following

/-!
# Stopping for good

A loader is stopped, or its table is. From then on each tick that starts is refused, what has been
fetched is dropped, and no event takes the stop back.

* `Loader.Halted l t`: the loader has been stopped, or its table has;
* `Loader.start_of_halted`, `Loader.finish_of_halted`: what is left of the halves of a tick;
* `loader_stop`, `stopped_stop`, `stopped_command`, `stopped_of_failed_or_exhausted`: who stops
  what;
* `loader_step`, `stopped_step`: no event takes a stop back.

Of a table that somebody changes nothing is known, and it counts as not stopped. A tick goes on in
that case, up to the point where it needs the table itself.
-/

namespace LiveTable.Stream

namespace Loader

/-- The loader has been stopped, or its table has. -/
def Halted (l : Loader) (t : Table) : Prop := l.stopped = true ∨ t.stopped = true

variable {l : Loader} {t : Table}

/-- A stop is noticed unless somebody changes the table. -/
theorem Halted.eq_exclusive (h : l.Halted t) {hold : Hold} (hstopped : l.isStopped t hold = false) :
    l.stopped = false ∧ hold = .exclusive := by
  simp only [isStopped, Bool.or_eq_false_iff, Bool.and_eq_false_iff, decide_eq_false_iff_not,
    Decidable.not_not] at hstopped
  obtain ⟨hloader, hhold⟩ := hstopped
  refine ⟨hloader, hhold.resolve_right fun htable => ?_⟩
  rcases h with h | h
  · rw [h] at hloader
    cases hloader
  · rw [h] at htable
    cases htable

/-- **A tick that starts after a stop is refused and changes nothing.** Whoever changes the table
hides the stop, but the tick needs the table, too. -/
theorem start_of_halted (h : l.Halted t) (hold : Hold) :
    ∃ tick, (tick = .stopped ∨ tick = .busy) ∧ l.start t hold = (.refused tick, l) := by
  rcases l.start_cases t hold with hrefused | ⟨hstopped, -, hhold, -⟩
  · exact hrefused
  · exact absurd (h.eq_exclusive hstopped).2 hhold

/-- **What was fetched before a stop is dropped.** Whoever changes the table hides that it has been
stopped, and then a tick ends as if the table were in use, or its fetch has failed. -/
theorem finish_of_halted (h : l.Halted t) (hold : Hold) (response : Response) :
    (l.finish t hold response).table = t ∧
      ((l.finish t hold response).tick = .discarded ∨
        l.stopped = false ∧ hold = .exclusive ∧
          ((∃ rows, response = .ok rows ∧ (l.finish t hold response).tick = .busy) ∨
            ∃ fault, response = .error fault ∧ (l.finish t hold response).tick = .failed)) := by
  have hready : { l with fetching := false }.isStopped t hold = l.isStopped t hold := rfl
  cases hstopped : l.isStopped t hold with
  | true => cases response <;> simp [finish, hready, hstopped]
  | false =>
    obtain ⟨hloader, rfl⟩ := h.eq_exclusive hstopped
    cases response with
    | ok rows =>
      refine ⟨?_, .inr ⟨hloader, rfl, .inl ⟨rows, rfl, ?_⟩⟩⟩ <;> simp [finish, hready, hstopped]
    | error fault =>
      refine ⟨?_, .inr ⟨hloader, rfl, .inr ⟨fault, rfl, ?_⟩⟩⟩ <;>
        simp [finish, hready, hstopped, fail, stop]

/-- A loader that was stopped stays so when its tick ends. -/
theorem stopped_finish (h : l.stopped = true) (hold : Hold) (response : Response) :
    (l.finish t hold response).loader.stopped = true := by
  rcases l.finish_cases t hold response with ⟨tick, notes, -, hfinish⟩ |
    ⟨rows, -, -, hstopped, -⟩ | ⟨fault, -, -, hfinish⟩
  · rw [hfinish]
    exact h
  · rw [isStopped, h] at hstopped
    cases hstopped
  · rw [hfinish, fail, stop]

/-- A tick that fails or finds its source exhausted stops the loader. -/
theorem stopped_of_tick {hold : Hold} {response : Response}
    (htick : (l.finish t hold response).tick = .failed ∨
      (l.finish t hold response).tick = .exhausted) :
    (l.finish t hold response).loader.stopped = true := by
  rcases l.finish_cases t hold response with ⟨tick, notes, hdropped, hfinish⟩ |
    ⟨rows, -, -, -, hfinish⟩ | ⟨fault, -, -, hfinish⟩
  · rw [hfinish] at htick
    rcases hdropped with rfl | rfl <;> rcases htick with htick | htick <;> cases htick
  · rw [hfinish] at htick ⊢
    simp only [deliver] at htick ⊢
    split
    · rfl
    · rename_i hmore
      rw [if_neg hmore] at htick
      rcases htick with htick | htick <;> cases htick
  · rw [hfinish, fail, stop]

end Loader

namespace Feed

variable {f : Feed} {i : Nat} {l : Loader}

/-! ### Who stops what -/

/-- A loader can be stopped while somebody holds its table. -/
theorem loader_stop (h : f.loaders[i]? = some l) :
    (f.step (.stop i)).feed.loaders[i]? = some { l with stopped := true } := by
  have hi := (List.getElem?_eq_some_iff.1 h).1
  simp only [step, Feed.stop, h, Loader.stop, setLoader, List.getElem?_set_self hi]

/-- Whoever stops a loader stops its table, if nobody holds that. -/
theorem stopped_stop (h : f.loaders[i]? = some l) (hhold : f.hold = .free) :
    (f.step (.stop i)).feed.table.stopped = true := by
  simp only [step, Feed.stop, h, Loader.stop, hhold, if_pos]
  rfl

/-- Whoever may change the table can stop it. -/
theorem stopped_command (hhold : f.hold ≠ .shared) :
    (f.step (.command .stop)).feed.table.stopped = true := by
  simp only [step, use, if_neg hhold]
  rfl

/-- A loader whose fetch has failed or found nothing more stops by itself. -/
theorem stopped_of_failed_or_exhausted {number : Nat}
    (h : (f.step (.land number)).answer = .tick .failed ∨
      (f.step (.land number)).answer = .tick .exhausted) :
    ∃ flight l, f.flight? number = some flight ∧
      (f.step (.land number)).feed.loaders[flight.loader]? = some l ∧ l.stopped = true := by
  simp only [step, Feed.land] at h ⊢
  split at h
  · rcases h with h | h <;> cases h
  · rename_i flight hflight
    split at h
    · rcases h with h | h <;> cases h
    · rename_i l hl
      have hi := (List.getElem?_eq_some_iff.1 hl).1
      refine ⟨flight, _, hflight, ?_,
        Loader.stopped_of_tick (h.imp Answer.tick.inj Answer.tick.inj)⟩
      simp only [setLoader, forget, List.getElem?_set_self hi]

/-! ### No event takes a stop back -/

/-- Ends and beginnings of ticks do not let a loader that was stopped go on. -/
theorem loader_setLoader {loaders : List Loader} {j : Nat} {m : Loader} (h : loaders[i]? = some l)
    (hstopped : l.stopped = true) (hm : ∀ old, loaders[j]? = some old → old.stopped = true →
      m.stopped = true) :
    ∃ l', (loaders.set j m)[i]? = some l' ∧ l'.stopped = true := by
  by_cases hij : j = i
  · subst hij
    have hi := (List.getElem?_eq_some_iff.1 h).1
    exact ⟨m, List.getElem?_set_self hi, hm l h hstopped⟩
  · exact ⟨l, by rw [List.getElem?_set_ne hij, h], hstopped⟩

/-- **A loader that has been stopped stays so.** -/
theorem loader_step (h : f.loaders[i]? = some l) (hstopped : l.stopped = true) (e : Event) :
    ∃ l', (f.step e).feed.loaders[i]? = some l' ∧ l'.stopped = true := by
  cases e with
  | join source interval =>
    refine ⟨l, ?_, hstopped⟩
    have hi := (List.getElem?_eq_some_iff.1 h).1
    rw [step, join, List.getElem?_append_left hi, h]
  | start j =>
    simp only [step, Feed.start]
    split
    · exact ⟨l, h, hstopped⟩
    · rename_i m hm
      rcases m.start_cases f.table f.hold with ⟨tick, -, hstart⟩ | ⟨hgoes, -, -, hstart⟩
      · rw [hstart]
        exact ⟨l, h, hstopped⟩
      · rw [hstart]
        refine loader_setLoader h hstopped fun old hold => ?_
        cases hm.symm.trans hold
        exact id
  | land number =>
    simp only [step, Feed.land]
    split
    · exact ⟨l, h, hstopped⟩
    · split
      · exact ⟨l, h, hstopped⟩
      · rename_i m hm
        refine loader_setLoader h hstopped fun old hold => ?_
        cases hm.symm.trans hold
        exact fun hm => Loader.stopped_finish hm _ _
  | abandon number =>
    simp only [step, Feed.abandon]
    split
    · exact ⟨l, h, hstopped⟩
    · split
      · exact ⟨l, h, hstopped⟩
      · rename_i m hm
        refine loader_setLoader h hstopped fun old hold => ?_
        cases hm.symm.trans hold
        exact id
  | hold hold => exact ⟨l, h, hstopped⟩
  | stop j =>
    simp only [step, Feed.stop]
    split
    · exact ⟨l, h, hstopped⟩
    · exact loader_setLoader h hstopped fun _ _ _ => rfl
  | command command =>
    refine ⟨l, ?_, hstopped⟩
    simp only [step, use]
    split <;> exact h

/-- **A table into which streaming has been stopped stays so.** -/
theorem stopped_step (h : f.table.stopped = true) (e : Event) :
    (f.step e).feed.table.stopped = true := by
  rcases f.table_step_cases e with heq | heq | ⟨number, flight, l, -, -, -, heq⟩ |
    ⟨command, -, heq⟩
  · rw [heq, h]
  · rw [heq, Table.stop]
  · rw [heq, (Loader.finish_of_halted (.inr h) _ _).1, h]
  · rw [heq]
    exact Table.stopped_perform h command

end Feed

end LiveTable.Stream
