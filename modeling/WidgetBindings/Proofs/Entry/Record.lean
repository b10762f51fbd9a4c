import WidgetBindings.EntryJson
import WidgetBindings.Proofs.Document.Key
import WidgetBindings.Proofs.Json.Records

/-!
# Entries as records

An entry is printed as a record of its identifier and its six fields.

* `ControlType.jsonName_eq_tag`, `EventCode.jsonName_eq_tag`: in JSON the members of the
  vocabularies go by their tags, so the record holds the flat values of the fields
  (`Entry.toJson_eq`);
* `Entry.readable`: the record is read back, wherever it stands.
-/

namespace WidgetBindings

open Json Json.Read

/-! ## Vocabularies -/

namespace ControlType

@[simp] theorem jsonName_eq_tag (type : ControlType) : type.jsonName = type.tag := by
  cases type <;> rfl

theorem ofJsonName?_jsonName (type : ControlType) : ofJsonName? type.jsonName = some type := by
  cases type <;> rfl

theorem readable (depth : Nat) (type : ControlType) :
    Readable (ControlType.read depth) (stringText type.jsonName) type :=
  readable_variant depth _ type.ofJsonName?_jsonName

end ControlType

namespace EventCode

@[simp] theorem jsonName_eq_tag (event : EventCode) : event.jsonName = event.tag := by
  cases event <;> rfl

theorem ofJsonName?_jsonName (event : EventCode) : ofJsonName? event.jsonName = some event := by
  cases event <;> rfl

theorem readable (depth : Nat) (event : EventCode) :
    Readable (EventCode.read depth) (stringText event.jsonName) event :=
  readable_variant depth _ event.ofJsonName?_jsonName

end EventCode

/-! ## Fields -/

namespace Field

/-- Every field, in the order in which records list them. -/
def listed : List Field := [displayName, controlType, event, produce, consume, group]

/-- The name of a field in records. -/
def longName : Field → String
  | displayName => "display_name"
  | controlType => "control_type"
  | event => "event"
  | produce => "produce"
  | consume => "consume"
  | group => "group"

theorem mem_listed (field : Field) : field ∈ listed := by
  cases field <;> decide

/-- A field can be asked for by its name in records. -/
@[simp] theorem ofName_longName (field : Field) : ofName field.longName = .ok field := by
  cases field <;> rfl

end Field

namespace Entry

/-- The members of an entry: its identifier, and the flat value of each field. -/
def members (entry : Entry) : List (String × Json) :=
  ("identifier", .string entry.identifier) ::
    Field.listed.map fun field => (field.longName, (entry.value field).toJson)

theorem toJson_eq (entry : Entry) : entry.toJson = .object entry.members := by
  simp [toJson, members, Field.listed, Field.longName, value, FieldValue.toJson]

/-- Each member is read into its own place of the record. -/
theorem takes_members (depth level : Nat) (entry : Entry) :
    Takes (prettyAt level) (readMember depth) {} entry.members
      ⟨some entry.identifier, some entry.displayName, some entry.controlType, some entry.event,
        some entry.produce, some entry.consume, some entry.group⟩ := by
  have type := entry.controlType.readable depth
  have event := entry.event.readable depth
  rw [ControlType.jsonName_eq_tag] at type
  rw [EventCode.jsonName_eq_tag] at event
  let identifier := some entry.identifier
  let name := some entry.displayName
  let type? := some entry.controlType
  let event? := some entry.event
  let produce := some entry.produce
  refine .field (fun v => ⟨some v, none, none, none, none, none, none⟩)
    (readable_text "a string" _) (fun _ => rfl) ?_
  refine .field (fun v => ⟨identifier, some v, none, none, none, none, none⟩)
    (readable_text "a string" _) (fun _ => rfl) ?_
  refine .field (fun v => ⟨identifier, name, some v, none, none, none, none⟩) type (fun _ => rfl) ?_
  refine .field (fun v => ⟨identifier, name, type?, some v, none, none, none⟩) event
    (fun _ => rfl) ?_
  refine .field (fun v => ⟨identifier, name, type?, event?, some v, none, none⟩)
    (readable_flag entry.produce) (fun _ => rfl) ?_
  refine .field (fun v => ⟨identifier, name, type?, event?, produce, some v, none⟩)
    (readable_flag entry.consume) (fun _ => rfl) ?_
  exact .field (fun v => ⟨identifier, name, type?, event?, produce, some entry.consume, some v⟩)
    (readable_flag entry.group) (fun _ => rfl) (.nil _)

/-- An entry is read where one is expected, wherever its record stands. -/
theorem readable (depth level : Nat) (entry : Entry) :
    Readable (Entry.read (depth + 1)) (prettyAt level entry.toJson) entry := by
  rw [toJson_eq]
  exact readable_record Draft.finish (fun _ => rfl) (unfolds_pretty level entry.members)
    (takes_members depth (level + 1) entry) fun _ => rfl

end Entry

end WidgetBindings
