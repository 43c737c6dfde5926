import LiveTable.CommandLine.Output
import LiveTable.Proofs.Stream.Draining
import LiveTable.Proofs.Table.Unstreamed

/-!
# Rows loaded in chunks

The command line shows the same whether the rows are there from the start or are loaded in chunks.

* `Arguments.streaming a`: `a` with the rows loaded in chunks;
* `Arguments.read_stream`: what the option for that says in front of other arguments;
* `streamed_eq_full`: the table is the same either way, apart from streaming;
* `filled_streaming`: so it is for all arguments whose rows can be had;
* `arranged_unstreamed`, `written_unstreamed`: what is shown does not depend on streaming;
* `output_stream_eq`: neither does the output.
-/

namespace LiveTable.CommandLine

open Table (Draft Options RowView)

variable {files : Files} {a : Arguments} {all : List Value} {n : Nat}

/-! ### Reading arguments -/

namespace Arguments

/-- What the arguments say, with the rows loaded in chunks. -/
def streaming (a : Arguments) : Arguments := { a with stream := true }

/-- There is one way to write the option that takes no value. -/
theorem eq_of_form_eq_option {argument : String} (h : form argument = .option streamName none) :
    argument = "--stream" := by
  unfold form at h
  split at h
  · cases h
  · rename_i cs _ hcs
    dsimp only at h
    split at h
    · cases (Form.option.inj h).2
    · rename_i hdrop
      have hname := (Form.option.inj h).1
      have hall : cs.takeWhile (· ≠ '=') = cs :=
        (List.takeWhile_prefix _).eq_of_length_le (List.drop_eq_nil_iff.1 hdrop)
      rw [hall] at hname
      have hcs' : cs = streamName.toList := by rw [← hname, String.toList_ofList]
      exact String.toList_injective (hcs.trans (by rw [hcs']; rfl))
  · cases h
  · cases h

theorem set_streaming (a : Arguments) (s : Setting) (value : String) :
    a.streaming.set s value = (a.set s value).map streaming := by
  cases s with
  | sort => rfl
  | config | template | pageSize | search | page | interval =>
    simp only [set, streaming]
    cases once _ _ _ _ <;> rfl

theorem stream_of_set {b : Arguments} {s : Setting} {value : String} (h : a.set s value = .ok b) :
    b.stream = a.stream := by
  cases s with
  | sort => cases h; rfl
  | config | template | pageSize | search | page | interval =>
    simp only [set] at h
    cases hread : once _ _ _ _ with
    | error fault => rw [hread] at h; cases h
    | ok read => rw [hread] at h; cases h; rfl

theorem place_streaming (a : Arguments) (argument : String) :
    a.streaming.place argument = (a.place argument).map streaming := by
  obtain ⟨data, config, template, pageSize, search, sort, page, stream, interval⟩ := a
  cases data with
  | some path => rfl
  | none =>
    simp only [place, streaming, Option.isSome_none, Bool.false_eq_true, if_neg, not_false_eq_true]
    cases path? argument <;> rfl

theorem stream_of_place {b : Arguments} {argument : String} (h : a.place argument = .ok b) :
    b.stream = a.stream := by
  simp only [place] at h
  split at h
  · cases h
  · split at h <;> cases h
    rfl

theorem foldlM_place_streaming (arguments : List String) (a : Arguments) :
    arguments.foldlM place a.streaming = (arguments.foldlM place a).map streaming := by
  induction arguments generalizing a with
  | nil => rfl
  | cons argument rest ih =>
    rw [List.foldlM_cons, List.foldlM_cons, place_streaming]
    cases a.place argument with
    | error fault => rfl
    | ok a => exact ih a

theorem readAfter_streaming : ∀ (arguments : List String) (a : Arguments), a.stream = false →
    "--stream" ∉ arguments →
    readAfter a.streaming arguments = (readAfter a arguments).map streaming
  | [], _, _, _ => rfl
  | argument :: rest, a, hstream, hplain => by
    rw [List.mem_cons, not_or] at hplain
    obtain ⟨hargument, hrest⟩ := hplain
    unfold readAfter
    cases hform : form argument with
    | dashes => exact foldlM_place_streaming rest a
    | dashed => rfl
    | plain =>
      dsimp only
      rw [place_streaming]
      cases hplace : a.place argument with
      | error fault => rfl
      | ok b => exact readAfter_streaming rest b ((stream_of_place hplace).trans hstream) hrest
    | option name value =>
      dsimp only
      split
      · rename_i hname
        -- This is another way to write it, with a value.
        cases value with
        | some value => rfl
        | none =>
          rw [hname] at hform
          exact absurd (eq_of_form_eq_option hform).symm hargument
      · cases Setting.named? name with
        | none => rfl
        | some s =>
          cases value with
          | some value =>
            dsimp only
            rw [set_streaming]
            cases hset : a.set s value with
            | error fault => rfl
            | ok b => exact readAfter_streaming rest b ((stream_of_set hset).trans hstream) hrest
          | none =>
            cases rest with
            | nil => rfl
            | cons value rest =>
              dsimp only
              split
              · rw [set_streaming]
                cases hset : a.set s value with
                | error fault => rfl
                | ok b =>
                  exact readAfter_streaming rest b ((stream_of_set hset).trans hstream)
                    fun hmem => hrest (List.mem_cons_of_mem value hmem)
              · rfl

/-- **The option in front of other arguments says no more than that rows are loaded in chunks.** -/
theorem read_stream {arguments : List String} (h : "--stream" ∉ arguments) :
    read ("--stream" :: arguments) = (read arguments).map streaming := by
  have hform : form "--stream" = .option streamName none := by decide
  have hfirst : read ("--stream" :: arguments) = readAfter empty.streaming arguments := by
    rw [read, readAfter, hform]
    rfl
  rw [hfirst, readAfter_streaming arguments empty rfl h, read]

end Arguments

/-! ### Full tables -/

/-- What the command line builds a table from: options and a row template. -/
def plainDraft (options : Options) (view : RowView) : Draft :=
  { Draft.of options with view := some view }

/-- Results that agree in one respect agree in all that follows from it. -/
theorem map_eq_of_map_eq {ε α β γ δ : Type} {x : Except ε α} {y : Except ε β} {f : α → γ}
    {g : β → γ} {f' : α → δ} {g' : β → δ} (h : x.map f = y.map g)
    (hfollows : ∀ a b, x = .ok a → y = .ok b → f a = g b → f' a = g' b) :
    x.map f' = y.map g' := by
  cases x with
  | error e =>
    cases y with
    | error e' => exact congrArg Except.error (Except.error.inj h)
    | ok b => cases h
  | ok a =>
    cases y with
    | error e' => cases h
    | ok b => exact congrArg Except.ok (hfollows a b rfl rfl (Except.ok.inj h))

/-- Rows from the start are rows that come in at once. -/
theorem map_full {α : Type} (f : Table → α) (options : Options) (view : RowView)
    (all : List Value) : (full (plainDraft options view) (.ok all)).map f =
      ((Table.build (plainDraft options view)).map fun built =>
        f (built.table.add all).table).mapError .table := by
  have hrows : (Table.build { plainDraft options view with rows := all }).map (·.table) =
      (Table.build (plainDraft options view)).map fun built => (built.table.add all).table :=
    Table.build_rows (plainDraft options view) rfl all
  have hmap : (Table.build { plainDraft options view with rows := all }).map (f ·.table) =
      (Table.build (plainDraft options view)).map fun built => f (built.table.add all).table :=
    map_eq_of_map_eq hrows fun _ _ _ _ => congrArg f
  rw [← hmap]
  show ((Table.build { plainDraft options view with rows := all }).mapError Failure.table >>=
    fun built => pure built.table).map f = _
  cases Table.build { plainDraft options view with rows := all } <;> rfl

theorem map_streamed {α : Type} (f : Table → α) (options : Options) (view : RowView)
    (response : Stream.Response) (interval : Option Nat) :
    (streamed (plainDraft options view) response interval).map f =
      ((Table.build (plainDraft options view)).map fun built =>
        f ((Stream.Loader.ofOptions (.file response) options
          (interval.map (· * Nat.pow 10 6))).run built.table).table).mapError .table := by
  unfold streamed
  cases Table.build (plainDraft options view) <;> rfl

/-- **Loading in chunks gives the table that has all rows from the start**, apart from streaming. -/
theorem streamed_eq_full (options : Options) (view : RowView) (hn : 1 ≤ n) (all : List Value)
    (interval : Option Nat) :
    (streamed (plainDraft { options with fetchLimit := some n } view) (.ok all) interval).map
        Table.unstreamed =
      (full (plainDraft options view) (.ok all)).map Table.unstreamed := by
  have hbuild : (Table.build (plainDraft { options with fetchLimit := some n } view)).map
        (·.table.unstreamed) =
      (Table.build (plainDraft options view)).map (·.table.unstreamed) :=
    Table.build_unstreamed (plainDraft options view) (some n)
  rw [map_full, map_streamed]
  refine congrArg (Except.mapError Failure.table)
    (map_eq_of_map_eq hbuild fun built built' hbuilt _ hsame => ?_)
  have hrun := congrArg Table.unstreamed (Stream.Loader.running_run_file hbuilt rfl rfl
    (fun _ => rfl) rfl hn all (interval.map (· * Nat.pow 10 6)))
  rw [Table.unstreamed_running, Table.unstreamed_running] at hrun
  calc _ = (built.table.add all).table.unstreamed := hrun
    _ = (built.table.unstreamed.add all).table.unstreamed :=
        (built.table.unstreamed_add all).symm
    _ = (built'.table.unstreamed.add all).table.unstreamed := by rw [hsame]
    _ = (built'.table.add all).table.unstreamed := built'.table.unstreamed_add all

/-! ### With chunks and without -/

/-- With chunks some rows are fetched at once. -/
theorem exists_limit {limit : Option Nat} (h : limit ≠ some 0) :
    ∃ n, 1 ≤ n ∧ limit.or (some chunk) = some n := by
  cases limit with
  | none => exact ⟨chunk, by decide, rfl⟩
  | some n => exact ⟨n, Nat.one_le_iff_ne_zero.2 fun hzero => h (congrArg some hzero), rfl⟩

theorem tableOptions_streaming (files : Files) (hstream : a.stream = false) :
    tableOptions files a.streaming =
      (tableOptions files a).map fun options =>
        { options with fetchLimit := options.fetchLimit.or (some chunk) } := by
  simp only [tableOptions, Arguments.streaming, hstream, if_pos, Bool.false_eq_true, if_neg,
    not_false_eq_true]
  cases hconfig : a.config with
  | none => rfl
  | some path =>
    cases htext : files.text? path with
    | none => simp only [htext]; rfl
    | some text =>
      simp only [htext]
      cases Options.read text <;> rfl

/-- **The table with all rows is the same**, apart from streaming. -/
theorem filled_streaming (hstream : a.stream = false) (hrows : rows files a = .ok all)
    (hlimit : ∀ options, tableOptions files a = .ok options → options.fetchLimit ≠ some 0) :
    (filled files a.streaming).map Table.unstreamed =
      (filled files a).map Table.unstreamed := by
  unfold filled
  rw [tableOptions_streaming files hstream]
  cases hoptions : tableOptions files a with
  | error failure => rfl
  | ok options =>
    have htemplate : rowTemplate files a.streaming = rowTemplate files a := rfl
    have hsame : rows files a.streaming = rows files a := rfl
    rw [htemplate, hsame, hrows, hstream]
    cases rowTemplate files a with
    | error failure => rfl
    | ok template =>
      obtain ⟨n, hn, hlimit⟩ := exists_limit (hlimit options hoptions)
      let view? := (RowView.ofTemplate .empty template).mapError (Failure.table ∘ .template)
      show (view? >>= fun view => streamed (plainDraft
          { options with fetchLimit := options.fetchLimit.or (some chunk) } view) (.ok all)
          a.interval).map Table.unstreamed =
        (view? >>= fun view => full (plainDraft options view) (.ok all)).map Table.unstreamed
      rw [hlimit]
      cases view? with
      | error failure => rfl
      | ok view => exact streamed_eq_full options view hn all a.interval

/-! ### Pages -/

theorem sortedBy_unstreamed (t : Table) (field : String) :
    sortedBy t.unstreamed field = (sortedBy t field).map Table.unstreamed := by
  simp only [sortedBy, Table.unstreamed_toggle]
  rcases t.toggle field with ⟨fault | spec, sorted, notices⟩ <;> rfl

theorem arranged_unstreamed (a : Arguments) (t : Table) :
    arranged a t.unstreamed = (arranged a t).map Table.unstreamed := by
  have hsort : ∀ (fields : List String) (t : Table), fields.foldlM sortedBy t.unstreamed =
      (fields.foldlM sortedBy t).map Table.unstreamed := by
    intro fields
    induction fields with
    | nil => exact fun _ => rfl
    | cons field fields ih =>
      intro t
      rw [List.foldlM_cons, List.foldlM_cons, sortedBy_unstreamed]
      cases sortedBy t field with
      | error failure => rfl
      | ok t => exact ih t
  unfold arranged
  rw [hsort]
  cases a.sort.foldlM sortedBy t with
  | error failure => rfl
  | ok t =>
    cases a.search with
    | none =>
      cases a.page with
      | none => rfl
      | some target => exact congrArg (Except.ok ·.table) (t.unstreamed_goTo target)
    | some text =>
      have hsearch := congrArg Table.Outcome.table (t.unstreamed_search text)
      cases a.page with
      | none => exact congrArg Except.ok hsearch
      | some target =>
        refine congrArg Except.ok ?_
        show ((t.unstreamed.search text).table.goTo target).table = _
        rw [hsearch, Table.unstreamed_goTo]

theorem written_unstreamed (t : Table) : written t.unstreamed = written t := rfl

theorem shown_eq (files : Files) (a : Arguments) :
    shown files a =
      (filled files a).map Table.unstreamed >>= fun t => (arranged a t).map written := by
  unfold shown
  cases filled files a with
  | error failure => rfl
  | ok t =>
    show (arranged a t >>= fun t => pure (written t)) = (arranged a t.unstreamed).map written
    rw [arranged_unstreamed]
    cases arranged a t with
    | error failure => rfl
    | ok shown => exact congrArg Except.ok (written_unstreamed shown).symm

theorem shown_streaming (hstream : a.stream = false) (hrows : rows files a = .ok all)
    (hlimit : ∀ options, tableOptions files a = .ok options → options.fetchLimit ≠ some 0) :
    shown files a.streaming = shown files a := by
  rw [shown_eq, shown_eq, filled_streaming hstream hrows hlimit]
  rfl

/-- **Loading in chunks does not show.** If the rows can be had and the options do not say that none
are to be fetched at once, arguments that also ask for chunks, in whatever place, have the output of
those that do not, or fail in the same way; and the option may always come first. -/
theorem output_stream_eq {files : Files} {plain : List String}
    (hreads : ∀ a, Arguments.read plain = .ok a →
      a.stream = false ∧ (∃ all, rows files a = .ok all) ∧
        ∀ options, tableOptions files a = .ok options → options.fetchLimit ≠ some 0) :
    (∀ streaming, Arguments.read streaming = (Arguments.read plain).map Arguments.streaming →
      output files streaming = output files plain) ∧
    ("--stream" ∉ plain → output files ("--stream" :: plain) = output files plain) := by
  have hoption : ∀ streaming,
      Arguments.read streaming = (Arguments.read plain).map Arguments.streaming →
      output files streaming = output files plain := by
    intro streaming hsame
    unfold output
    rw [hsame]
    cases hread : Arguments.read plain with
    | error fault => rfl
    | ok a =>
      obtain ⟨hstream, ⟨all, hrows⟩, hlimit⟩ := hreads a hread
      exact shown_streaming hstream hrows hlimit
  exact ⟨hoption, fun hplain => hoption _ (Arguments.read_stream hplain)⟩

/-- Two films, a row template, and options by which rows are fetched one by one. -/
def shelf : Files := fun path =>
  if path = "films" then
    some ("[\x7b\"name\":\"Solaris\",\"year\":1972\x7d," ++
      "\x7b\"name\":\"Persona\",\"year\":1966\x7d]").toUTF8
  else if path = "row" then some (tag "record.name").toUTF8
  else if path = "options" then
    some "\x7b\"fetch_data_limit\":1,\"sorting\":[\"year\"]\x7d".toUTF8
  else none

/-- The second film that has an S, from the last year to the first. -/
def secondFilm : List String :=
  ["--config", "options", "--template", "row", "--per-page", "1", "--sort", "year", "--search", "s",
    "--page", "2", "films"]

theorem output_stream_secondFilm :
    (output shelf ("--stream" :: secondFilm)).isOk = true ∧
      output shelf ("--stream" :: secondFilm) = output shelf secondFilm := by
  have hsays : ((Arguments.read secondFilm).toOption.all fun a =>
      !a.stream && (rows shelf a).isOk &&
        (tableOptions shelf a).toOption.all (·.fetchLimit ≠ some 0)) = true := by decide +kernel
  have hreads : ∀ a, Arguments.read secondFilm = .ok a →
      a.stream = false ∧ (∃ all, rows shelf a = .ok all) ∧
        ∀ options, tableOptions shelf a = .ok options → options.fetchLimit ≠ some 0 := by
    intro a hread
    rw [hread] at hsays
    simp only [Except.toOption, Option.all_some, Bool.and_eq_true, Bool.not_eq_true'] at hsays
    obtain ⟨⟨hstream, hrows⟩, hlimit⟩ := hsays
    refine ⟨hstream, ?_, fun options hoptions => ?_⟩
    · cases hresponse : rows shelf a with
      | ok all => exact ⟨all, rfl⟩
      | error fault =>
        rw [hresponse] at hrows
        cases hrows
    · rw [hoptions] at hlimit
      exact of_decide_eq_true hlimit
  have hsame := (output_stream_eq hreads).2 (by decide)
  refine ⟨?_, hsame⟩
  rw [hsame]
  decide +kernel

end LiveTable.CommandLine
