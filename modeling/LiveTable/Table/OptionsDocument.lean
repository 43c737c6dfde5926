import LiveTable.Json.Record
import LiveTable.Table.Options

/-!
# Options from JSON

* `PageOptions.recordFields`, `Options.recordFields`: the fields of the two records, in the order in
  which an array writes them;
* `Options.decode`: the options written by a text;
* `Options.read`: the same, if a table can be built with them.
-/

namespace LiveTable.Table

/-- The fields of the page options. -/
def PageOptions.recordFields : List (Json.Field PageOptions) :=
  [ .of "span" Json.readCount fun o v => { o with span := v },
    .of "prev_text" Json.readText fun o v => { o with previousLabel := v },
    .of "next_text" Json.readText fun o v => { o with nextLabel := v },
    .of "per_page_select" Json.readBool fun o v => { o with offersSizes := v },
    .of "per_page_options" (Json.readList Json.readCount) fun o v => { o with sizes := v },
    .of "per_page" (Json.readOptional Json.readCount) fun o v => { o with size := v },
    .of "ul_class" (Json.readOptional Json.readText) fun o v => { o with linksClass := v },
    .of "per_page_class" (Json.readOptional Json.readText) fun o v => { o with sizesClass := v } ]

namespace Options

/-- The fields of the options. -/
def recordFields : List (Json.Field Options) :=
  [ .of "fields" (Json.readOptional (Json.readList Json.readText)) fun o v =>
      { o with fields := v },
    .of "pagination" (Json.readRecord PageOptions.recordFields .standard) fun o v =>
      { o with pages := v },
    .of "stream_after" Json.readReal fun o v => { o with streamAfter := v },
    .of "fetch_data_limit" (Json.readOptional Json.readCount) fun o v => { o with fetchLimit := v },
    .of "sorting" (Json.readList Json.readText) fun o v => { o with sorting := v } ]

/-- The options written by a text. -/
def decode (text : String) : Except Fault Options :=
  match (Json.parse? text).bind (Json.readRecord recordFields standard) with
  | some o => .ok o
  | none => .error .options

/-- The options written by a text, if a table can be built with them. -/
def read (text : String) : Except Fault Options := do
  let o ← decode text
  o.validate
  pure o

end Options

end LiveTable.Table
