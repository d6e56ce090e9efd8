import PageBuilder.Json.Value
import PageBuilder.Json.Token

/-!
# Reading JSON

A text is read in two passes: into tokens, and from tokens into a value, with the arrays and objects
that are still open on a stack. `ofText?` accepts every well-formed text; `ofBoundedText?` accepts
those whose values can all be held and whose nesting is not too deep.
-/

namespace PageBuilder.Json

/-- An array or object that is still open, with what has been read of it, last first. -/
inductive Frame
  | items (done : List Json)
  /-- The name is that of the member whose value comes next; without text when it is unreadable. -/
  | members (done : List (Option String × Json)) (name : Option String)

/-- What may come next. -/
inductive Expect
  /-- A value. -/
  | value
  /-- A value or the end of the array just opened. -/
  | firstItem
  /-- A member name of the object whose members are given. -/
  | name (done : List (Option String × Json))
  /-- A member name or the end of the object just opened. -/
  | firstName
  /-- The colon after a member name. -/
  | colon (done : List (Option String × Json)) (name : Option String)
  /-- A comma, or the end of the innermost open array or object, after the given value. -/
  | next (read : Json)

/-- Where the reader stands: what may come next, and what is open, innermost first. -/
structure Reading where
  expect : Expect
  stack : List Frame

/-- The object with the given members, last first; unreadable if one of its names is. -/
def ofMembers (members : List (Option String × Json)) : Json :=
  match members.reverse.mapM fun (name, value) => name.map (·, value) with
  | some named => object named
  | none => unreadable

namespace Reading

/-- The value of a token that is one by itself. -/
def atom? : Token → Option Json
  | .null => some .null
  | .bool b => some (.bool b)
  | .number l => some (.number l)
  | .string (some s) => some (.string s)
  | .string none => some .unreadable
  | _ => none

/-- Takes the token where a value is expected. -/
def takeValue (stack : List Frame) (token : Token) : Option Reading :=
  match token with
  | .openArray => some ⟨.firstItem, stack⟩
  | .openObject => some ⟨.firstName, stack⟩
  | token => (atom? token).map fun v => ⟨.next v, stack⟩

/-- Takes the token where a member name is expected. -/
def takeName (done : List (Option String × Json)) (stack : List Frame) (token : Token) :
    Option Reading :=
  match token with
  | .string name => some ⟨.colon done name, stack⟩
  | _ => none

/-- Takes the token after a value that stands in an array or object. -/
def takeNext (read : Json) (stack : List Frame) (token : Token) : Option Reading :=
  match stack, token with
  -- After a comma another item or member must come.
  | .items done :: outer, .comma => some ⟨.value, .items (read :: done) :: outer⟩
  | .items done :: outer, .closeArray => some ⟨.next (.array (read :: done).reverse), outer⟩
  | .members done name :: outer, .comma => some ⟨.name ((name, read) :: done), outer⟩
  | .members done name :: outer, .closeObject =>
    some ⟨.next (ofMembers ((name, read) :: done)), outer⟩
  | _, _ => none

def step (r : Reading) (token : Token) : Option Reading :=
  match r.expect, token with
  | .value, token => takeValue r.stack token
  | .firstItem, .closeArray => some ⟨.next (.array []), r.stack⟩
  | .firstItem, token => takeValue (.items [] :: r.stack) token
  | .firstName, .closeObject => some ⟨.next (.object []), r.stack⟩
  | .firstName, token => takeName [] r.stack token
  | .name done, token => takeName done r.stack token
  | .colon done name, .colon => some ⟨.value, .members done name :: r.stack⟩
  | .colon _ _, _ => none
  | .next read, token => takeNext read r.stack token

/-- Takes all tokens; the value that stands alone at the end. -/
def run (r : Reading) : List Token → Option Json
  | [] =>
    match r.expect, r.stack with
    | .next read, [] => some read
    | _, _ => none
  | token :: rest =>
    match r.step token with
    | some next => run next rest
    | none => none

end Reading

/-- The value of a well-formed text. -/
def ofText? (text : String) : Option Json := do
  let tokens ← tokenize text.toList
  Reading.run ⟨.value, []⟩ tokens

/-- How deep a value may be nested to be held whole. -/
def maxDepth : Nat := 127

/-- The value of a well-formed text, if it can be held whole. -/
def ofBoundedText? (text : String) : Option Json :=
  (ofText? text).filter fun v => v.readable && v.depth ≤ maxDepth

end PageBuilder.Json
