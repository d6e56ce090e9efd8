import PageBuilder.Json.Value
import PageBuilder.Text.Quoted

/-!
# Faults of a value

Why a JSON value does not fit what is read from it, and how that is reported.
-/

namespace PageBuilder.Json

/-- What a reader was looking for. -/
inductive Expected
  | string
  | boolean
  /-- An unsigned integer of so many bits. -/
  | natural (bits : Nat)
  | single
  | sequence
  /-- The fields of the named record. -/
  | record (name : String)
  /-- The name of a choice. -/
  | choice
  /-- The value `null` beside the name of a choice. -/
  | unit
  deriving DecidableEq, Repr

/-- The words for what a reader was looking for. -/
def Expected.text : Expected → String
  | string => "a string"
  | boolean => "a boolean"
  | natural bits => s!"u{bits}"
  | single => "f32"
  | sequence => "a sequence"
  | record name => s!"struct {name}"
  | choice => "string or map"
  | unit => "unit"

/-- Why a value does not fit. -/
inductive Fault
  | missingField (name : String)
  | unknownChoice (given : String) (known : List String)
  | wrongType (found : Json) (expected : Expected)
  | outOfRange (found : Int) (expected : Expected)
  /-- An object stands for a choice only if it has a single member. -/
  | severalMembers
  | badColumns (count : Nat)
  | tooFewItems (count : Nat) (record : String) (fields : Nat)
  | tooManyItems (count : Nat)
  | repeatedField (name : String)
  | unreadable

/-- The words for a value that is out of place. -/
def describe : Json → String
  | null => "null"
  | bool b => s!"boolean `{b}`"
  | number l =>
    match l.value with
    | some (.natural n) => s!"integer `{n}`"
    | some (.negated n) => s!"integer `-{n}`"
    | some (.float x) => s!"floating point `{(Literal.ofBinary Literal.doubleRange x).text}`"
    | none => "number out of range"
  | string s => "string " ++ Text.quoted s
  | array _ => "sequence"
  | object _ => "map"
  | unreadable => "unreadable text"

def backquoted (name : String) : String := s!"`{name}`"

/-- What is reported of a fault. A value with a part that is unreadable comes from data files only,
and their faults are not reported. -/
def Fault.message : Fault → String
  | missingField name => s!"missing field {backquoted name}"
  | unknownChoice given known =>
    let choices := ", ".intercalate (known.map backquoted)
    s!"unknown variant {backquoted given}, expected one of {choices}"
  | wrongType found expected => s!"invalid type: {describe found}, expected {expected.text}"
  | outOfRange found expected => s!"invalid value: integer `{found}`, expected {expected.text}"
  | severalMembers => "invalid value: map, expected map with a single key"
  | badColumns count => s!"columns must be 1, 2 or 3, got {count}"
  | tooFewItems count record fields =>
    s!"invalid length {count}, expected struct {record} with {fields} elements"
  | tooManyItems count => s!"invalid length {count}, expected fewer elements in array"
  | repeatedField name => s!"duplicate field {backquoted name}"
  | unreadable => "unreadable value"

end PageBuilder.Json
