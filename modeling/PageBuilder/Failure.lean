import PageBuilder.Json.Fault

/-!
# Failures

What an editor operation can fail with. Changes of elements that are not there are no failures;
names that mean nothing and texts that hold no page are.
-/

namespace PageBuilder

/-- Why a text cannot be imported. -/
inductive ImportFault
  /-- The text is not JSON, or holds what no value can hold. -/
  | malformed
  /-- The text is JSON but no page. -/
  | misfit (fault : Json.Fault)

/-- Why an operation failed. Names are as they were given. -/
inductive Failure
  | invalidImport (fault : ImportFault)
  | missingElements
  | unknownKind (name : String)
  | unknownTheme (name : String)
  | unknownFormat (name : String)
  | templateNotFound (name : String)
  | premadeNotFound (name : String)
  | projectNotFound (name : String)

/-- What is reported of a failure. The words of the JSON reader for a malformed text are not kept,
so there the report ends early. -/
def Failure.message : Failure → String
  | invalidImport .malformed => "Invalid import data"
  | invalidImport (.misfit fault) => s!"Invalid import data: {fault.message}"
  | missingElements => "Import data has no elements field"
  | unknownKind name => s!"Unknown element kind: {name}"
  | unknownTheme name => s!"Unknown theme: {name}"
  | unknownFormat name => s!"Unknown export format: {name}"
  | templateNotFound name => s!"Template not found: {name}"
  | premadeNotFound name => s!"Premade project not found: {name}"
  | projectNotFound name => s!"Project not found: {name}"

/-- What brought a failure about, as far as it is kept. -/
def Failure.causes : Failure → List String
  | invalidImport (.misfit fault) => [fault.message]
  | _ => []

end PageBuilder
