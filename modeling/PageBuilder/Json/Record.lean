import PageBuilder.Json.Fault

/-!
# Reading records

Readers for plain values, and for records: from an object, member by member in its order, or from an
array that lists the fields in theirs. Members with other names are left out.
-/

namespace PageBuilder.Json

def asString : Json → Except Fault String
  | string s => .ok s
  | unreadable => .error .unreadable
  | value => .error (.wrongType value .string)

/-- Reads a truth value. -/
def asBool : Json → Except Fault Bool
  | bool b => .ok b
  | unreadable => .error .unreadable
  | value => .error (.wrongType value .boolean)

/-- Reads an unsigned integer of at most the given number of bits. -/
def asNatural (bits : Nat) : Json → Except Fault Nat
  | number l =>
    match l.value with
    | some (.natural n) =>
      if n < Nat.pow 2 bits then .ok n else .error (.outOfRange n (.natural bits))
    | some (.negated n) => .error (.outOfRange (-n) (.natural bits))
    | some (.float _) => .error (.wrongType (number l) (.natural bits))
    | none => .error .unreadable
  | unreadable => .error .unreadable
  | value => .error (.wrongType value (.natural bits))

/-- Reads an unsigned 32-bit integer. -/
def asUInt32 (value : Json) : Except Fault UInt32 := (asNatural 32 value).map UInt32.ofNat

/-- Reads an unsigned 64-bit integer. -/
def asUInt64 (value : Json) : Except Fault UInt64 := (asNatural 64 value).map UInt64.ofNat

/-- Reads any number as a single. -/
def asSingle : Json → Except Fault Numeric.Single
  | number l =>
    match l.value with
    | some v => .ok v.toSingle
    | none => .error .unreadable
  | unreadable => .error .unreadable
  | value => .error (.wrongType value .single)

/-- Reads an array, item by item. -/
def asList {α : Type} (item : Json → Except Fault α) : Json → Except Fault (List α)
  | array items => items.mapM item
  | unreadable => .error .unreadable
  | value => .error (.wrongType value .sequence)

/-- Reads a value that may be `null`. -/
def asOption {α : Type} (some? : Json → Except Fault α) : Json → Except Fault (Option α)
  | null => .ok none
  | value => (some? value).map some

/-- One field of a record: its name, and how its value goes into a draft of the record. -/
structure Field (δ : Type) where
  name : String
  store : δ → Json → Except Fault δ

/-- How a record is read: by way of a draft, which its fields fill in. -/
structure Shape (δ α : Type) where
  name : String
  fields : List (Field δ)
  /-- The draft without any field. -/
  blank : δ
  /-- The record of a draft, or the first field that is missing. -/
  finish : δ → Except String α

namespace Shape

variable {δ α : Type}

/-- Fills in the members of an object, in their order. -/
def storeMembers (shape : Shape δ α) :
    List String → List (String × Json) → δ → Except Fault δ
  | _, [], draft => .ok draft
  -- Only names of fields are remembered: a member that is left out may be repeated.
  | seen, (name, value) :: rest, draft =>
    match shape.fields.find? (·.name == name) with
    | none => storeMembers shape seen rest draft
    | some field =>
      if seen.contains name then .error (.repeatedField name)
      else
        match field.store draft value with
        | .ok draft => storeMembers shape (name :: seen) rest draft
        | .error fault => .error fault

/-- Fills in the items of an array, in the order of the fields. -/
def storeItems : List (Field δ) → List Json → δ → Except Fault δ
  | field :: fields, item :: items, draft =>
    match field.store draft item with
    | .ok draft => storeItems fields items draft
    | .error fault => .error fault
  | _, _, draft => .ok draft

def read (shape : Shape δ α) : Json → Except Fault α
  | object members =>
    match shape.storeMembers [] members shape.blank with
    | .error fault => .error fault
    | .ok draft =>
      match shape.finish draft with
      | .ok record => .ok record
      | .error field => .error (.missingField field)
  | array items =>
    match storeItems shape.fields items shape.blank with
    | .error fault => .error fault
    | .ok draft =>
      match shape.finish draft with
      | .error _ => .error (.tooFewItems items.length shape.name shape.fields.length)
      -- Items beyond the fields are a fault only once all fields have been read.
      | .ok record =>
        if shape.fields.length < items.length then .error (.tooManyItems items.length)
        else .ok record
  | unreadable => .error .unreadable
  | value => .error (.wrongType value (.record shape.name))

end Shape

/-- The members of a record that are set, in order. -/
def ofFields (fields : List (String × Option Json)) : Json :=
  object (fields.filterMap fun (name, value) => value.map (name, ·))

end PageBuilder.Json
