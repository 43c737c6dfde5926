import LiveTable.Stream.Loader

/-!
# Undisturbed runs

A loader ticks until a tick is final. When nobody else uses its table, nothing happens during a
fetch, and how long one waits between two ticks makes no difference.

* `Loader.tickAlone`: a tick with nobody else at the table;
* `Loader.run`: ticks until one is final, and what was told meanwhile.
-/

namespace LiveTable.Stream

namespace Loader

/-- A tick with nobody else at the table. -/
def tickAlone (l : Loader) (t : Table) : Finish :=
  match l.start t .free with
  | (.refused tick, l) => ⟨tick, l, t, []⟩
  | (.fetching request response _, l) =>
    let done := l.finish t .free response
    { done with notes := .fetch request :: done.notes }

/-- What is there after a run. -/
structure Run where
  loader : Loader
  table : Table
  notes : List Note

/-- Ticks, at most `fuel` of them, until one is final. -/
def runUpTo : Nat → Loader → Table → Run
  | 0, l, t => ⟨l, t, []⟩
  | fuel + 1, l, t =>
    if l.isStopped t .free then ⟨l, t, []⟩
    else
      let done := l.tickAlone t
      if done.tick.isFinal then ⟨done.loader, done.table, done.notes⟩
      else
        let rest := runUpTo fuel done.loader done.table
        { rest with notes := done.notes ++ rest.notes }

/-- A run, whose ticks all add a row but the last one as long as the table takes all rows: one more
tick than fetches of its source give rows is enough. -/
def run (l : Loader) (t : Table) : Run := runUpTo (l.source.size + 1) l t

end Loader

end LiveTable.Stream
