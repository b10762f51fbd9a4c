import WidgetBindings.Json.Reader
import WidgetBindings.Json.Skip

/-!
# Reading records

A record is an object whose members are its fields, in any order, or a list of its fields in their
order. Members that are no field are passed over.
-/

namespace WidgetBindings.Json.Read

/-- Reads a record, as a list or as an object. -/
def record {α : Type} (name : String) (depth : Nat)
    (ofList ofObject : Nat → List UInt8 → Except Trouble (α × List UInt8))
    (unread : List UInt8) : Except Fault (α × List UInt8) :=
  match skipBlanks unread with
  | [] => .error (.upon .endInValue [])
  | b :: rest =>
    if b = 91 then
      match depth with
      | 0 => .error (.upon .nestedTooDeeply (b :: rest))
      | depth + 1 => leaveList (ofList depth rest)
    else if b = 123 then
      match depth with
      | 0 => .error (.upon .nestedTooDeeply (b :: rest))
      | depth + 1 => leaveObject (ofObject depth rest)
    else wrongType s!"struct {name}" b rest

/-- Reads the next field of a record in a list, if there is one. -/
def field? {α : Type} (first : Bool) (read : List UInt8 → Except Fault (α × List UInt8))
    (unread : List UInt8) : Except Trouble (Option α × List UInt8) := inside do
  let (more, unread) ← nextElement first unread
  if more then
    let (a, unread) ← read unread
    .ok (some a, unread)
  else .ok (none, unread)

/-- Reads the field of a record that has the given place in a list. -/
def field {α : Type} (expected : String) (place : Nat)
    (read : List UInt8 → Except Fault (α × List UInt8)) (unread : List UInt8) :
    Except Trouble (α × List UInt8) := do
  match ← field? (place = 0) read unread with
  | (some a, unread) => .ok (a, unread)
  | (none, unread) => .error (.flaw (.wrongLength place expected) unread)

/-- Reads the member that holds a field, unless the field has been read before. -/
def once {α σ : Type} (name : String) (seen : Option α)
    (read : List UInt8 → Except Fault (α × List UInt8)) (set : α → σ) (unread : List UInt8) :
    Except Trouble (σ × List UInt8) :=
  if seen.isSome then .error (.flaw (.duplicateField name) unread)
  else inside do
    let (a, unread) ← read (← colon unread)
    .ok (set a, unread)

/-- Passes over a member that is no field. -/
def foreign {σ : Type} (state : σ) (unread : List UInt8) : Except Trouble (σ × List UInt8) :=
  inside do .ok (state, ← Skip.value (← colon unread))

/-- The value of a field that the members must have held. -/
def required {α : Type} (name : String) (unread : List UInt8) : Option α → Except Trouble α
  | some a => .ok a
  | none => .error (.flaw (.missingField name) unread)

end WidgetBindings.Json.Read
