import WidgetBindings.Json.Record
import WidgetBindings.Store

/-!
# The configuration document

What is kept of a store between runs: the identifiers in order, and one value for each field of each
entry under a flat key, the identifier and the suffix of the field joined by an underscore. As JSON
a document is a record of these two; either may be missing. A key is taken apart at its last
underscore, so identifiers may hold underscores themselves (`Document.splitKey?`).
-/

namespace WidgetBindings

/-- The saved form of a store. -/
structure Document where
  identifiers : List String
  values : List (String × Json)
  deriving Repr

def FieldValue.toJson : FieldValue → Json
  | .text value => .string value
  | .flag value => .bool value

namespace Document

/-- The key of one field of one entry. -/
def fieldKey (identifier : String) (field : Field) : String := identifier ++ "_" ++ field.suffix

/-- The parts of `cs` before and after the last `c`. -/
def splitLast? (c : Char) : List Char → Option (List Char × List Char)
  | [] => none
  | d :: rest =>
    match splitLast? c rest with
    | some (before, after) => some (d :: before, after)
    | none => if d = c then some ([], rest) else none

/-- The identifier and the suffix of a key, unless one of them is missing or empty. -/
def splitKey? (key : String) : Option (String × String) :=
  match splitLast? '_' key.toList with
  | some (before, after) =>
    if before.isEmpty || after.isEmpty then none
    else some (String.ofList before, String.ofList after)
  | none => none

/-- The members that hold the fields of an entry. -/
def entryValues (entry : Entry) : List (String × Json) :=
  Field.all.map fun field => (fieldKey entry.identifier field, (entry.value field).toJson)

def ofStore (store : Store) : Document :=
  ⟨store.identifiers, store.toList.flatMap entryValues⟩

def toJson (document : Document) : Json := .object [
  ("variables", .array (document.identifiers.map .string)),
  ("values", .object document.values)]

def text (document : Document) : String := document.toJson.pretty ++ "\n"

/-! ## Reading -/

open Json.Read

/-- The parts of a document that have been read. -/
structure Draft where
  identifiers : Option (List String) := none
  values : Option (List (String × Json)) := none

/-- The document of the parts that have been read. Missing parts are empty. -/
def Draft.finish (draft : Draft) : Document := ⟨draft.identifiers.getD [], draft.values.getD []⟩

def readIdentifiers (depth : Nat) : List UInt8 → Except Json.Fault (List String × List UInt8) :=
  listOf depth fun _ => Json.Read.text "a string"

/-- Reads the values. Of a key that occurs again the last value counts, at the place of the first.
-/
def readValues (depth : Nat) :
    List UInt8 → Except Json.Fault (List (String × Json) × List UInt8) :=
  mapOf depth value (fun values key v => Json.setMember key v values) []

def readMember (depth : Nat) (draft : Draft) (key : String) (unread : List UInt8) :
    Except Trouble (Draft × List UInt8) :=
  if key = "variables" then
    once key draft.identifiers (readIdentifiers depth)
      (fun v => { draft with identifiers := some v }) unread
  else if key = "values" then
    once key draft.values (readValues depth) (fun v => { draft with values := some v }) unread
  else foreign draft unread

def readFields (depth : Nat) (unread : List UInt8) :
    Except Trouble (Document × List UInt8) := do
  let (identifiers, unread) ← field? true (readIdentifiers depth) unread
  let (values, unread) ← field? identifiers.isNone (readValues depth) unread
  .ok (Draft.finish ⟨identifiers, values⟩, unread)

def read (depth : Nat) : List UInt8 → Except Json.Fault (Document × List UInt8) :=
  record "ConfigurationDocument" depth readFields fun depth unread => do
    let (draft, unread) ← members (readMember depth) (unread.length + 1) true {} unread
    .ok (draft.finish, unread)

def ofBytes (bytes : List UInt8) : Except Json.Complaint Document := all (read nestingLimit) bytes

end Document

end WidgetBindings
