import WidgetBindings.CommandLine.Run
import WidgetBindings.Proofs.Document.Text
import WidgetBindings.Proofs.Entry.Record
import WidgetBindings.Proofs.Json.Values
import WidgetBindings.Proofs.Session.Setting
import WidgetBindings.Proofs.Source.Layout

/-!
# The listing of a store as JSON

* `Entry.readable_value`: where any value is expected, the record of an entry is read as an object;
* `Store.edit_restoring`: an edit that sets a field to what it is changes nothing;
* `listing_faithful`: the listing gives the entries back, and each field that it shows can be typed
  in again.
-/

namespace WidgetBindings

open Json Json.Read

/-! ## Read back -/

namespace Entry

/-- The record of an entry is read as an object where any value is expected. -/
theorem readable_value (depth level : Nat) (entry : Entry) :
    Readable (Read.value (depth + 1)) (prettyAt level (.object entry.members))
      (.object entry.members) := by
  have distinct : (entry.members.map (·.1)).Nodup := by
    change ("identifier" :: Field.listed.map Field.longName).Nodup
    decide
  refine readable_object distinct fun m mem => ?_
  obtain rfl | mem := List.mem_cons.1 mem
  · exact readable_string depth (level + 1) entry.identifier
  · obtain ⟨field, _, rfl⟩ := List.mem_map.1 mem
    exact Document.readable_fieldValue depth (level + 1) (entry.value field)

end Entry

/-! ## Typed in again -/

namespace Store

variable {store : Store} {entry : Entry}

theorem edit_restoring (there : entry ∈ store.toList) (field : Field) :
    store.edit entry.identifier (entry.restoring field) = .ok store := by
  refine edit_eq_ok_iff.2 ⟨List.mem_map_of_mem there, ?_⟩
  have same : ∀ e ∈ store.toList, editFor entry.identifier (entry.restoring field) e = e := by
    intro e mem
    unfold editFor
    split_ifs with named
    · rw [List.inj_on_of_nodup_map store.nodup_identifiers mem there named]
      exact entry.apply_restoring field
    · rfl
  rw [List.map_congr_left same, List.map_id']

end Store

namespace Session

variable {session : Session} {entry : Entry}

/-- A field that is set to what it is stays what it is. -/
theorem edit_of_value (there : entry ∈ session.store.toList) (field : Field) :
    session.edit entry.identifier field.longName (entry.value field).word =
      updated entry.identifier field session := by
  have parsed := Edit.parse_word (Edit.ofValue_value entry field)
  rw [edit_of_parsed field.ofName_longName parsed,
    apply_of_edited (Store.edit_restoring there field)]
  cases field <;> rfl

theorem edit_identifier (session : Session) (identifier word : String) :
    session.edit identifier "identifier" word =
      pure (.error (.edit (.immutableField "identifier"))) := rfl

end Session

namespace CommandLine

open Source (quotedCall producerCall consumerCall)

/-- **The listing is faithful.** Read as a list of entries, it gives back the entries of the store
in their order, whatever their texts hold; and read as any JSON, a list of objects that show the
identifier and each field of an entry under its long name. The kind of widget and the event show as
the tags that the calls of the generated source hold and that an operator has to type for them. A
field shows with the value that the document has for it. Whichever field an operator sets to what is
shown of it, the session stays as it is, and so it does with the identifier, which cannot be set. -/
theorem listing_faithful (session : Session) :
    let listing := Text.toBytes (listText session true)
    let entries := session.store.toList
    all (listOf nestingLimit Entry.read) listing = .ok entries ∧
    all (value nestingLimit) listing = .ok (.array (entries.map fun e => .object e.members)) ∧
    ∀ entry ∈ entries,
      (let kind := entry.controlType.tag
        let event := entry.event.tag
        ("control_type", .string kind) ∈ entry.members ∧
        ("event", .string event) ∈ entry.members ∧
        (producerCall entry).toList =
          quotedCall "host.AddProducer" entry.displayName [entry.identifier, kind, event] ∧
        (consumerCall entry).toList =
          quotedCall "host.AddConsumer" entry.displayName [entry.identifier, kind] ∧
        ∀ word,
          (Edit.parse .controlType word = .ok (.controlType entry.controlType) ↔ word = kind) ∧
          (Edit.parse .event word = .ok (.event entry.event) ↔ word = event)) ∧
      (∀ field, let shown := entry.value field
        (field.longName, shown.toJson) ∈ entry.members ∧
        (Document.fieldKey entry.identifier field, shown.toJson) ∈
          (Document.ofStore session.store).values ∧
        session.edit entry.identifier field.longName shown.word =
          Session.updated entry.identifier field session) ∧
      ∀ word, session.edit entry.identifier "identifier" word =
        pure (.error (.edit (.immutableField "identifier"))) := by
  intro listing entries
  have shows (entry : Entry) (field : Field) :
      (field.longName, (entry.value field).toJson) ∈ entry.members :=
    List.mem_cons_of_mem _ (List.mem_map_of_mem field.mem_listed)
  refine ⟨?_, ?_, fun entry there => ⟨⟨shows entry .controlType, shows entry .event,
    Source.toList_producerCall entry, Source.toList_consumerCall entry, fun word => ?_⟩, ?_, ?_⟩⟩
  · have each : Readable (listOf nestingLimit Entry.read)
        (pretty (.array (entries.map Entry.toJson))) entries :=
      readable_listOf fun entry _ => entry.readable (nestingLimit - 2) 1
    exact each.all_line
  · have each : Readable (value nestingLimit) (pretty (.array (entries.map Entry.toJson)))
        (.array (entries.map fun e => .object e.members)) := by
      rw [funext Entry.toJson_eq]
      refine readable_array fun object mem => ?_
      obtain ⟨entry, _, rfl⟩ := List.mem_map.1 mem
      exact entry.readable_value (nestingLimit - 2) 1
    exact each.all_line
  · have kind : (Edit.controlType entry.controlType).value = .text entry.controlType.tag := rfl
    have event : (Edit.event entry.event).value = .text entry.event.tag := rfl
    exact ⟨Edit.parse_eq_ok_iff kind, Edit.parse_eq_ok_iff event⟩
  · intro field shown
    refine ⟨shows entry field, ?_, Session.edit_of_value there field⟩
    have known : field ∈ Field.all := by cases field <;> decide
    exact List.mem_flatMap.2 ⟨entry, there, List.mem_map_of_mem known⟩
  · exact session.edit_identifier entry.identifier

/-- An entry whose texts need escapes. -/
def quotedEntry : Entry := ⟨"ui \"a\"", "first\nsecond\\", .slider, .released, true, false, false⟩

def quotedSession : Session :=
  { Session.new {} with store := Store.ofCalls [.insert quotedEntry] }

theorem listing_faithful_quoted :
    quotedEntry ∈ quotedSession.store.toList ∧
    all (listOf nestingLimit Entry.read) (Text.toBytes (listText quotedSession true)) =
      .ok [quotedEntry] ∧
    quotedSession.edit "ui \"a\"" "control_type" "SLIDER_CT" =
      Session.updated "ui \"a\"" .controlType quotedSession := by
  have entries : quotedSession.store.toList = [quotedEntry] := by decide +kernel
  have there : quotedEntry ∈ quotedSession.store.toList := by
    rw [entries]
    exact List.mem_singleton_self quotedEntry
  obtain ⟨read, _, each⟩ := listing_faithful quotedSession
  rw [entries] at read
  exact ⟨there, read, ((each quotedEntry there).2.1 .controlType).2.2⟩

end CommandLine

end WidgetBindings
