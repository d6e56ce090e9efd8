import PageBuilder.Json.Literal

/-!
# JSON values

The values of a JSON text. Objects keep their members in written order, repetitions included; the
canonical form of a value has every object sorted by name with one member a name, the last one
written.
-/

namespace PageBuilder

/-- A JSON value. -/
inductive Json
  | null
  | bool (b : Bool)
  | number (literal : Json.Literal)
  | string (text : String)
  | array (items : List Json)
  | object (members : List (String × Json))
  /-- What is well formed but denotes no value: a string, or an object with a member name, that has
  half of a surrogate pair. -/
  | unreadable

namespace Json

/-- Puts a member into members sorted by name; a member of the same name that is there already
stays. -/
def insertMember (name : String) (value : Json) : List (String × Json) → List (String × Json)
  | [] => [(name, value)]
  | (other, v) :: rest =>
    if name < other then (name, value) :: (other, v) :: rest
    -- The one that is there was written later.
    else if name = other then (other, v) :: rest
    else (other, v) :: insertMember name value rest

mutual

/-- The value with the members of every object sorted by name, the last of each name. -/
def canonical : Json → Json
  | array items => array (canonicalItems items)
  | object members => object (canonicalMembers members)
  | null => null
  | bool b => bool b
  | number l => number l
  | string s => string s
  | unreadable => unreadable

def canonicalItems : List Json → List Json
  | [] => []
  | item :: rest => canonical item :: canonicalItems rest

/-- The members in canonical form. Later members are put in first, so that they win. -/
def canonicalMembers : List (String × Json) → List (String × Json)
  | [] => []
  | (name, value) :: rest => insertMember name (canonical value) (canonicalMembers rest)

end

mutual

/-- Whether the value can be held whole: no unreadable part, no number beyond the doubles. -/
def readable : Json → Bool
  | array items => readableItems items
  | object members => readableMembers members
  | number l => l.value.isSome
  | unreadable => false
  | null => true
  | bool _ => true
  | string _ => true

/-- Whether all items of an array can be held. -/
def readableItems : List Json → Bool
  | [] => true
  | item :: rest => readable item && readableItems rest

/-- Whether all members of an object can be held. -/
def readableMembers : List (String × Json) → Bool
  | [] => true
  | (_, value) :: rest => readable value && readableMembers rest

end

mutual

/-- How deep arrays and objects are nested. -/
def depth : Json → Nat
  | array items => depthItems items + 1
  | object members => depthMembers members + 1
  | null => 0
  | bool _ => 0
  | number _ => 0
  | string _ => 0
  | unreadable => 0

/-- The depth of the deepest item. -/
def depthItems : List Json → Nat
  | [] => 0
  | item :: rest => max (depth item) (depthItems rest)

/-- The depth of the deepest member. -/
def depthMembers : List (String × Json) → Nat
  | [] => 0
  | (_, value) :: rest => max (depth value) (depthMembers rest)

end

/-- The member of an object with the given name, the last one of several. -/
def member? (name : String) : Json → Option Json
  | object members => (members.reverse.find? (·.1 == name)).map (·.2)
  | _ => none

end Json

end PageBuilder
