/-
Reading a JSON text. The parser goes over the tokens once with a stack of the
containers that are still open. Containers may lie in each other as deep as
they like, but from a certain level on they have no value any more; nor has an
object with a name that is no text.
-/
import SharedGateway.Json.Token

namespace SharedGateway.Json

/-- A container that is still open. -/
inductive Frame where
  /-- A list with its items so far, latest first. -/
  | list (done : List Document)
  /-- An object between two members, with its members so far, latest first;
  they are gone once a name had no content. -/
  | object (done : Option Document.Members)
  /-- An object that waits for the value of the name. -/
  | member (done : Option Document.Members) (name : Option String)

/-- What the next token may be. -/
inductive Expected where
  | value
  /-- Just after the opening of a list. -/
  | valueOrClose
  /-- After a comma in an object. -/
  | name
  /-- Just after the opening of an object. -/
  | nameOrClose
  | colon
  /-- After a value inside a container. -/
  | commaOrClose
  /-- After the whole value. -/
  | nothing (whole : Document)

/-- The open containers, innermost first, how many they are, and what may come
next. -/
structure Parser where
  stack : List Frame
  level : Nat
  expected : Expected

/-- The deepest level at which a container has a value. -/
def deepestLevel : Nat := 127

namespace Parser

/-- The start of a text. -/
def start : Parser := ⟨[], 0, .value⟩

/-- Hands a complete value to the container that waits for it. -/
def deliver (d : Document) (level : Nat) : List Frame → Option Parser
  | [] => some ⟨[], level, .nothing d⟩
  | .list done :: rest => some ⟨.list (d :: done) :: rest, level, .commaOrClose⟩
  | .member done name :: rest =>
    let done := done.bind fun done => name.map fun name => (name, d) :: done
    some ⟨.object done :: rest, level, .commaOrClose⟩
  | .object _ :: _ => none

/-- Opens a container. -/
def enter (p : Parser) (frame : Frame) (expected : Expected) : Parser :=
  ⟨frame :: p.stack, p.level + 1, expected⟩

/-- Closes the innermost container. -/
def leave (p : Parser) (container : Document) (rest : List Frame) : Option Parser :=
  deliver (if p.level ≤ deepestLevel then container else .valueless) (p.level - 1) rest

/-- The start of a value. -/
def startValue (p : Parser) : Token → Option Parser
  | .word d => deliver d p.level p.stack
  | .string (some text) => deliver (.str text) p.level p.stack
  | .string none => deliver .valueless p.level p.stack
  | .listOpen => some (p.enter (.list []) .valueOrClose)
  | .objectOpen => some (p.enter (.object (some [])) .nameOrClose)
  | _ => none

/-- The closing mark of the innermost container. -/
def close (p : Parser) : Token → Option Parser
  | .listClose =>
    match p.stack with
    | .list done :: rest => p.leave (.list done.reverse) rest
    | _ => none
  | .objectClose =>
    match p.stack with
    | .object (some done) :: rest => p.leave (.object done.reverse) rest
    | .object none :: rest => p.leave .valueless rest
    | _ => none
  | _ => none

/-- The name of a member. -/
def startMember (p : Parser) : Token → Option Parser
  | .string name =>
    match p.stack with
    | .object done :: rest => some ⟨.member done name :: rest, p.level, .colon⟩
    | _ => none
  | _ => none

/-- The comma between two values of a container. -/
def separate (p : Parser) : Option Parser :=
  match p.stack with
  | .list _ :: _ => some { p with expected := .value }
  | .object _ :: _ => some { p with expected := .name }
  | _ => none

/-- One token. -/
def step (p : Parser) (token : Token) : Option Parser :=
  match p.expected, token with
  | .value, token => p.startValue token
  | .valueOrClose, .listClose => p.close .listClose
  | .valueOrClose, token => p.startValue token
  | .name, token => p.startMember token
  | .nameOrClose, .objectClose => p.close .objectClose
  | .nameOrClose, token => p.startMember token
  | .colon, .colon => some { p with expected := .value }
  | .colon, _ => none
  | .commaOrClose, .comma => p.separate
  | .commaOrClose, token => p.close token
  | .nothing _, _ => none

end Parser

/-- The document that a text writes, if it writes exactly one. -/
def Document.ofText? (text : String) : Option Document :=
  (tokens? text.toList).bind fun tokens =>
    (tokens.foldlM Parser.step .start).bind fun p =>
      match p.expected with
      | .nothing whole => some whole
      | _ => none

/-- The value that a text writes, if it writes exactly one. -/
def ofText? (text : String) : Option Json :=
  (Document.ofText? text).bind Document.value?

/-- What is read from a text is ordered. -/
theorem ordered_of_ofText? {text : String} {v : Json} (h : ofText? text = some v) :
    Ordered v := by
  obtain ⟨d, -, found⟩ := Option.bind_eq_some_iff.1 h
  exact Document.ordered_of_value? found

end SharedGateway.Json
