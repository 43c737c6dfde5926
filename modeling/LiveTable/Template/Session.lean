import LiveTable.Template.Render

/-!
# Sessions

A session works with several engines. Its handles may share an engine, one engine is the default,
and a compiled template belongs to the engine that compiled it.

* `Session`: the engines, the handles on them and the compiled templates;
* `Command`, `Reply`: what a session is asked to do and what it answers;
* `Session.step`: the answer to a command and the session afterwards.
-/

namespace LiveTable.Template

/-- A compiled template with the engine that compiled it. -/
structure Compiled where
  engine : Nat
  program : Program

/-- Several engines at work. The first one is the default engine. -/
structure Session where
  engines : List Engine
  /-- The engine of each handle. -/
  handles : List Nat
  compiled : List Compiled

/-- The engine that a command is for. -/
inductive EngineRef where
  | default
  | handle (index : Nat)

/-- Delimiters as given: two texts, or none for the standard ones. -/
abbrev GivenDelimiters := Option (String × String)

/-- What a session is asked to do. -/
inductive Command where
  | compile (e : EngineRef) (text : String) (given : GivenDelimiters)
  | compilePartial (e : EngineRef) (name text : String) (given : GivenDelimiters)
  | setResolver (e : EngineRef) (r : Resolver)
  | render (e : EngineRef) (text : String) (view : Value) (given : GivenDelimiters)
  | renderWith (e : EngineRef) (text : String) (view : Value) (given : GivenDelimiters)
      (partials : Partials)
  | run (template : Nat) (view : Value)
  | runWith (template : Nat) (view : Value) (partials : Partials)
  | clear (e : EngineRef)
  /-- A handle on a new engine. -/
  | newEngine
  /-- One more handle on an engine. -/
  | share (e : EngineRef)
  /-- A handle on the engine of a template. -/
  | engineOf (template : Nat)
  | inspectEngine (e : EngineRef)
  | inspectTemplate (template : Nat)
  | inspectPartials (partials : Partials)

/-- What a session answers. -/
inductive Reply where
  | nothing
  /-- The index of a new handle or template. -/
  | index (n : Nat)
  | text (s : String)
  | fault (error : SyntaxError)
  | tooDeep

namespace Session

/-- The default engine, and a handle on another one. -/
def initial : Session := ⟨[.empty, .empty], [1], []⟩

/-- The place of an engine among the engines. -/
def engineIndex (s : Session) : EngineRef → Nat
  | .default => 0
  | .handle index => (s.handles[index]?).getD 0

/-- The engine at a place. -/
def engineAt (s : Session) (index : Nat) : Engine := (s.engines[index]?).getD .empty

/-- The session with another engine at a place. -/
def setEngine (s : Session) (index : Nat) (e : Engine) : Session :=
  { s with engines := s.engines.set index e }

/-- The answer to an operation that compiles a template, which joins the compiled ones. -/
def addCompiled (s : Session) (index : Nat)
    (outcome : Except SyntaxError Program × Engine) : Reply × Session :=
  let s := s.setEngine index outcome.2
  match outcome.1 with
  | .ok program =>
    (.index s.compiled.length, { s with compiled := s.compiled ++ [⟨index, program⟩] })
  | .error error => (.fault error, s)

/-- The answer to an operation that renders. -/
def rendered (s : Session) (index : Nat) (outcome : Except Stop String × Engine) :
    Reply × Session :=
  let s := s.setEngine index outcome.2
  match outcome.1 with
  | .ok text => (.text text, s)
  | .error (.fault error) => (.fault error, s)
  | .error .tooDeep => (.tooDeep, s)

/-- One more handle on the engine at a place. -/
def addHandle (s : Session) (index : Nat) : Reply × Session :=
  (.index s.handles.length, { s with handles := s.handles ++ [index] })

/-- An operation with delimiters as given, on the template `text` named `name`. -/
def withDelimiters (e : Engine) (given : GivenDelimiters) (name text : String)
    (operation : Delimiters → Except SyntaxError α × Engine) : Except SyntaxError α × Engine :=
  match given with
  | none => operation .standard
  | some (opening, closing) => e.withGiven opening closing name text operation

/-- The program of a template text with delimiters as given. -/
def compileGiven (e : Engine) (given : GivenDelimiters) (text : String) :
    Except SyntaxError Program × Engine :=
  withDelimiters e given templateName text fun d => e.compile templateName d text

/-- The text of a template text with delimiters as given, rendered by `run`. -/
def renderGiven (e : Engine) (given : GivenDelimiters) (text : String)
    (run : Engine → Program → Except Stop String × Engine) : Except Stop String × Engine :=
  match compileGiven e given text with
  | (.ok program, e) => run e program
  | (.error error, e) => (.error (.fault error), e)

/-- The answer of a command on the compiled template at a place, if there is one. -/
def onCompiled (s : Session) (template : Nat) (answer : Compiled → Reply × Session) :
    Reply × Session :=
  match s.compiled[template]? with
  | some c => answer c
  | none => (.nothing, s)

/-- The answer to a command and the session afterwards. -/
def step (s : Session) : Command → Reply × Session
  | .compile ref text given =>
    let i := s.engineIndex ref
    s.addCompiled i (compileGiven (s.engineAt i) given text)
  | .compilePartial ref name text given =>
    let i := s.engineIndex ref
    let e := s.engineAt i
    s.addCompiled i (withDelimiters e given name text fun d => e.compilePartial name d text)
  | .setResolver ref r =>
    let i := s.engineIndex ref
    (.nothing, s.setEngine i { s.engineAt i with resolver := some r })
  | .render ref text view given =>
    let i := s.engineIndex ref
    s.rendered i (renderGiven (s.engineAt i) given text fun e program => e.run program view)
  | .renderWith ref text view given partials =>
    let i := s.engineIndex ref
    s.rendered i
      (renderGiven (s.engineAt i) given text fun e program => e.runWith program view partials)
  | .run template view => s.onCompiled template fun c =>
    s.rendered c.engine ((s.engineAt c.engine).run c.program view)
  | .runWith template view partials => s.onCompiled template fun c =>
    s.rendered c.engine ((s.engineAt c.engine).runWith c.program view partials)
  | .clear ref =>
    let i := s.engineIndex ref
    (.nothing, s.setEngine i (s.engineAt i).clear)
  | .newEngine =>
    Session.addHandle { s with engines := s.engines ++ [Engine.empty] } s.engines.length
  | .share ref => s.addHandle (s.engineIndex ref)
  | .engineOf template => s.onCompiled template fun c => s.addHandle c.engine
  | .inspectEngine ref => (.text (s.engineAt (s.engineIndex ref)).inspect, s)
  | .inspectTemplate template => s.onCompiled template fun c => (.text c.program.inspect, s)
  | .inspectPartials partials => (.text partials.inspect, s)

/-- The number of programs at hand in the engine of each handle. -/
def sizes (s : Session) : List Nat := s.handles.map fun i => (s.engineAt i).size

/-- The names that resolvers were asked for since the last time, and the session that waits for
new ones. -/
def takeAsked (s : Session) : List String × Session :=
  (s.engines.flatMap (·.asked), { s with engines := s.engines.map ({ · with asked := [] }) })

end Session

end LiveTable.Template
