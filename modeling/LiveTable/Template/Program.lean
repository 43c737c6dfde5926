import LiveTable.Template.Token

/-!
# Programs

What is left of a template when it is rendered: its tokens without those that write nothing, and
each section with the text between its tags, which a lambda may ask for.

* `Node`, `Program`: an instruction and a list of them;
* `Program.ofTokens`: the program of a tree of tokens.
-/

namespace LiveTable.Template

/-- An instruction of a program. -/
inductive Node where
  | text (s : String)
  | escaped (name : String)
  | raw (name : String)
  /-- A section; the text between its tags is made when it is asked for. -/
  | block (name : String) (body : List Node) (text : Thunk String)
  | inverted (name : String) (body : List Node)
  | partialRef (name : String)

/-- The instructions of a template, in order. -/
abbrev Program := List Node

/-- The instruction of a token without an inside; comments and delimiters have none. -/
def Node.ofLeaf : Leaf → Program
  | .text s => [.text s]
  | .escaped name => [.escaped name]
  | .raw name => [.raw name]
  | .partialRef name => [.partialRef name]
  | .comment _ => []
  | .delimiters _ => []

namespace Program

mutual

/-- The instructions of one token of the template `source`. -/
def ofToken (source : List Char) : Token → Program
  | .leaf leaf _ => Node.ofLeaf leaf
  | .block false name span children close =>
    let text := Thunk.mk fun _ =>
      String.ofList ((Text.slice? ⟨span.stop, close⟩ source).getD [])
    [.block name (ofTokens source children) text]
  | .block true name _ children _ => [.inverted name (ofTokens source children)]

/-- The program of a tree of tokens of the template `source`. -/
def ofTokens (source : List Char) : List Token → Program
  | [] => []
  | token :: tokens => ofToken source token ++ ofTokens source tokens

end

end Program

/-- The program of a template text with the delimiters `d` in force at its start; `name` is the name
under which faults are reported. -/
def compile (name : String) (d : Delimiters) (text : String) : Except SyntaxError Program :=
  match parse d text.toList with
  | .ok tokens => .ok (Program.ofTokens text.toList tokens)
  | .error fault => .error ⟨fault, ⟨name, text⟩⟩

end LiveTable.Template
