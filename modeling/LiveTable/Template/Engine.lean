import LiveTable.Template.Program
import LiveTable.Template.Frame

/-!
# Engines

An engine keeps what it has compiled: programs by their text and delimiters, and partials by their
name. A resolver may supply the texts of partials that nobody has registered.

* `Resolver`: the text of a partial, by its name;
* `Partials`: partials supplied to a render, as texts or as a resolver;
* `Engine`: the programs, partials and resolver at hand, and the names that resolvers were asked
  for;
* `Engine.compile`: the program of a text, kept for the next time;
* `Engine.compilePartial`: the same, and registered under a name;
* `Engine.loadPartial`: a registered partial, or the one that the resolver supplies;
* `Engine.install`: partials registered, or a resolver put in place.
-/

namespace LiveTable.Template

/-- The text of a partial, by its name. -/
abbrev Resolver := String → Option String

/-- Partials supplied to a render. -/
inductive Partials where
  /-- Texts, compiled and registered before rendering. -/
  | named (texts : Dict String String)
  /-- A resolver, asked when a partial that is not registered is met. -/
  | resolver (r : Resolver)

/-- The text that a diagnostic shows for partials. -/
def Partials.inspect : Partials → String
  | named texts => "Map(" ++ (Value.array (texts.keys.map .string)).inspect ++ ")"
  | resolver _ => "Loader(..)"

/-- The name under which faults in a template that is no partial are reported. -/
def templateName : String := "template"

/-- What is at hand for rendering. -/
structure Engine where
  /-- Programs by the delimiters in force at their start and their text. -/
  programs : Dict (Delimiters × String) Program
  partials : Dict String Program
  resolver : Option Resolver
  /-- The names that resolvers were asked for, in order. -/
  asked : List String

namespace Engine

/-- Nothing compiled, nothing registered. -/
def empty : Engine := ⟨[], [], none, []⟩

/-- The number of programs at hand. -/
def size (e : Engine) : Nat := e.programs.length

/-- The program of a text, from the programs at hand or compiled and kept. -/
def compile (e : Engine) (name : String) (d : Delimiters) (text : String) :
    Except SyntaxError Program × Engine :=
  match e.programs.get? (d, text) with
  | some program => (.ok program, e)
  | none =>
    match Template.compile name d text with
    | .ok program => (.ok program, { e with programs := e.programs.insert (d, text) program })
    | .error fault => (.error fault, e)

/-- The program of a text, registered as the partial `name`. -/
def compilePartial (e : Engine) (name : String) (d : Delimiters) (text : String) :
    Except SyntaxError Program × Engine :=
  match e.compile name d text with
  | (.ok program, e) => (.ok program, { e with partials := e.partials.insert name program })
  | (.error fault, e) => (.error fault, e)

/-- An operation with delimiters given as two texts, on the template `text` named `name`. -/
def withGiven (e : Engine) (opening closing name text : String)
    (operation : Delimiters → Except SyntaxError α × Engine) : Except SyntaxError α × Engine :=
  match givenDelimiters opening closing with
  | .ok d => operation d
  | .error fault => (.error ⟨fault, ⟨name, text⟩⟩, e)

/-- The partial `name`: the registered one, else what the resolver supplies, compiled and
registered. -/
def loadPartial (e : Engine) (name : String) : Except SyntaxError (Option Program) × Engine :=
  match e.partials.get? name, e.resolver with
  | some program, _ => (.ok (some program), e)
  | none, none => (.ok none, e)
  | none, some resolver =>
    let e := { e with asked := e.asked ++ [name] }
    match resolver name with
    | none => (.ok none, e)
    | some text =>
      match e.compilePartial name .standard text with
      | (.ok program, e) => (.ok (some program), e)
      | (.error fault, e) => (.error fault, e)

/-- The texts compiled and registered in order, up to the first with a fault. -/
def installTexts (e : Engine) : List (String × String) → Except SyntaxError Unit × Engine
  | [] => (.ok (), e)
  | (name, text) :: texts =>
    match e.compilePartial name .standard text with
    | (.ok _, e) => installTexts e texts
    | (.error fault, e) => (.error fault, e)

/-- The partials put at hand. -/
def install (e : Engine) : Partials → Except SyntaxError Unit × Engine
  | .named texts => e.installTexts texts
  | .resolver r => (.ok (), { e with resolver := some r })

/-- No programs and no partials; the resolver stays. -/
def clear (e : Engine) : Engine := { e with programs := [], partials := [] }

/-- The text that a diagnostic shows for an engine. -/
def inspect (e : Engine) : String :=
  "Engine \x7b templates: " ++ toString e.size ++ ", partials: " ++ toString e.partials.length ++
    ", loader: " ++ (if e.resolver.isSome then "true" else "false") ++ " \x7d"

end Engine

/-- The text that a diagnostic shows for a compiled template. -/
def Program.inspect (p : Program) : String :=
  "Template \x7b program: Program \x7b nodes: " ++ toString p.length ++ " \x7d, .. \x7d"

end LiveTable.Template
