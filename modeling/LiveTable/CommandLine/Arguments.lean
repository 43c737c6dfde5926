import LiveTable.Table.Pages
import LiveTable.Text.Count

/-!
# Arguments

* `UsageFault`: why arguments make no sense, with a `message` for the reader;
* `Setting`: an option that takes a value;
* `Arguments`: what the arguments say;
* `Arguments.set`, `Arguments.place`: one more option with its value, one more argument without;
* `Arguments.read`: what a list of arguments says.

A value follows its option as the next argument, which then does not look like an option, or after
an equals sign. After two dashes alone nothing is an option. Only the sort option may be repeated.
-/

namespace LiveTable.CommandLine

/-- Why arguments make no sense. -/
inductive UsageFault where
  | unknownOption (argument : String)
  | missingValue (option : String)
  | unwantedValue (option : String)
  | repeated (option : String)
  | invalidValue (option value : String)
  | unexpected (argument : String)
  deriving DecidableEq, Repr

/-- One line that says what is wrong. -/
def UsageFault.message : UsageFault → String
  | unknownOption argument => "unexpected argument '" ++ argument ++ "' found"
  | missingValue option => "a value is required for '--" ++ option ++ "' but none was supplied"
  | unwantedValue option => "'--" ++ option ++ "' takes no value"
  | repeated option => "'--" ++ option ++ "' cannot be used multiple times"
  | invalidValue option value => "invalid value '" ++ value ++ "' for '--" ++ option ++ "'"
  | unexpected argument => "unexpected argument '" ++ argument ++ "' found"

/-- An option that takes a value. -/
inductive Setting where
  | config
  | template
  | pageSize
  | search
  | sort
  | page
  | interval
  deriving DecidableEq, Repr

/-- The name of an option. -/
def Setting.name : Setting → String
  | config => "config"
  | template => "template"
  | pageSize => "per-page"
  | search => "search"
  | sort => "sort"
  | page => "page"
  | interval => "interval-ms"

/-- The options that take a value. -/
def Setting.all : List Setting := [config, template, pageSize, search, sort, page, interval]

/-- The option with a name. -/
def Setting.named? (name : String) : Option Setting := Setting.all.find? (·.name = name)

/-- The name of the option that takes no value. -/
def streamName : String := "stream"

/-- What the arguments say. -/
structure Arguments where
  /-- The file with the rows. -/
  data : Option String
  /-- The file with the options of the table. -/
  config : Option String
  /-- The file with the row template. -/
  template : Option String
  pageSize : Option Nat
  search : Option String
  /-- The columns to sort by, one after the other. -/
  sort : List String
  page : Option Table.PageTarget
  /-- Whether the rows are loaded in chunks. -/
  stream : Bool
  /-- The milliseconds between two fetches. -/
  interval : Option Nat
  deriving DecidableEq

namespace Arguments

/-- What no arguments say. -/
def empty : Arguments := ⟨none, none, none, none, none, [], none, false, none⟩

/-- The value of an option that may be given once. -/
def once {α : Type} (s : Setting) (given : Option α) (value : String) (read : Option α) :
    Except UsageFault (Option α) :=
  if given.isSome then .error (.repeated s.name)
  else match read with
    | some v => .ok (some v)
    | none => .error (.invalidValue s.name value)

/-- The path that a text is; paths are not empty. -/
def path? (text : String) : Option String := if text = "" then none else some text

/-- One more option with its value. -/
def set (a : Arguments) (s : Setting) (value : String) : Except UsageFault Arguments :=
  match s with
  | .config => do return { a with config := ← once s a.config value (path? value) }
  | .template => do return { a with template := ← once s a.template value (path? value) }
  | .pageSize => do return { a with pageSize := ← once s a.pageSize value (Text.readCount value) }
  | .search => do return { a with search := ← once s a.search value (some value) }
  | .sort => return { a with sort := a.sort ++ [value] }
  | .page => do return { a with page := ← once s a.page value (Table.PageTarget.read? value) }
  | .interval => do return { a with interval := ← once s a.interval value (Text.readCount value) }

/-- One more argument that is no option: the file with the rows. -/
def place (a : Arguments) (argument : String) : Except UsageFault Arguments :=
  if a.data.isSome then .error (.unexpected argument)
  else match path? argument with
    | some path => .ok { a with data := some path }
    | none => .error (.invalidValue "data" argument)

/-- An argument by its form. -/
inductive Form where
  /-- Two dashes alone. -/
  | dashes
  /-- An option, with the value after its equals sign. -/
  | option (name : String) (value : Option String)
  /-- Something else that starts with a dash. -/
  | dashed
  | plain
  deriving DecidableEq, Repr

/-- The form of an argument. -/
def form (argument : String) : Form :=
  match argument.toList with
  | '-' :: '-' :: [] => .dashes
  | '-' :: '-' :: cs =>
    let name := cs.takeWhile (· ≠ '=')
    match cs.drop name.length with
    | _ :: value => .option (String.ofList name) (some (String.ofList value))
    | [] => .option (String.ofList name) none
  | '-' :: _ :: _ => .dashed
  | _ => .plain

/-- What a list of arguments says besides what was said before. -/
def readAfter (a : Arguments) : List String → Except UsageFault Arguments
  | [] => .ok a
  | argument :: rest =>
    match form argument with
    | .dashes => rest.foldlM place a
    | .dashed => .error (.unknownOption argument)
    | .plain => do readAfter (← a.place argument) rest
    | .option name value =>
      if name = streamName then
        if value.isSome then .error (.unwantedValue name)
        else if a.stream then .error (.repeated name)
        else readAfter { a with stream := true } rest
      else match Setting.named? name, value with
        | none, _ => .error (.unknownOption argument)
        | some s, some value => do readAfter (← a.set s value) rest
        | some s, none =>
          match rest with
          | [] => .error (.missingValue name)
          | value :: rest =>
            if form value = .plain then do readAfter (← a.set s value) rest
            else .error (.missingValue name)

/-- What a list of arguments says. -/
def read (arguments : List String) : Except UsageFault Arguments := readAfter .empty arguments

end Arguments

end LiveTable.CommandLine
