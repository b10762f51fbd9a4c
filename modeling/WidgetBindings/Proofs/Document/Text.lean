import WidgetBindings.Proofs.Document.Key
import WidgetBindings.Proofs.Json.Records

/-!
# The text of a document is read back

* `ofBytes_text`: a document comes back from its text if its keys are distinct and its values are
  readable;
* `ofBytes_ofStore`: the document of a store always does.
-/

namespace WidgetBindings.Document

open Json Json.Read

variable {document : Document}

/-- A document is read where one is expected, wherever its text stands. -/
theorem readable (depth : Nat) (distinct : (document.values.map (·.1)).Nodup)
    (each : ∀ m ∈ document.values, Readable (value depth) (prettyAt 2 m.2) m.2) :
    Readable (Document.read (depth + 2)) document.toJson.pretty document := by
  have identifiers : Readable (readIdentifiers (depth + 1))
      (prettyAt 1 (.array (document.identifiers.map .string))) document.identifiers :=
    readable_listOf fun s _ => by
      rw [prettyAt]
      exact readable_text _ s
  have unfolds := unfolds_pretty 1 document.values
  rw [← List.map_id document.values] at unfolds
  have values := readable_mapOf id (fun fields key v => setMember key v fields) [] unfolds each
  rw [foldl_setMember (by simpa using distinct), List.nil_append, List.map_id] at values
  have takes : Takes (prettyAt 1) (readMember (depth + 1)) {}
      [("variables", .array (document.identifiers.map .string)),
        ("values", .object document.values)]
      ⟨some document.identifiers, some document.values⟩ := by
    refine .field (fun v => ⟨some v, none⟩) identifiers (fun _ => rfl) ?_
    exact .field (fun v => ⟨some document.identifiers, some v⟩) values (fun _ => rfl) (.nil _)
  exact readable_record (fun draft unread => .ok (draft.finish, unread)) (fun _ => rfl)
    (unfolds_pretty 0 _) takes fun _ => rfl

/-- A document comes back from its text. -/
theorem ofBytes_text (distinct : (document.values.map (·.1)).Nodup)
    (each : ∀ m ∈ document.values, Readable (value (nestingLimit - 2)) (prettyAt 2 m.2) m.2) :
    ofBytes (Text.toBytes document.text) = .ok document :=
  (readable (nestingLimit - 2) distinct each).all_line

theorem readable_fieldValue (depth level : Nat) (v : FieldValue) :
    Readable (value depth) (prettyAt level v.toJson) v.toJson := by
  cases v with
  | text s => exact readable_string depth level s
  | flag b => exact readable_bool depth level b

/-- The document of a store comes back from its text. -/
theorem ofBytes_ofStore (store : Store) :
    ofBytes (Text.toBytes (ofStore store).text) = .ok (ofStore store) := by
  refine ofBytes_text (nodup_keys_ofStore store) fun m hm => ?_
  obtain ⟨e, _, hm⟩ := List.mem_flatMap.1 hm
  obtain ⟨field, _, rfl⟩ := List.mem_map.1 hm
  exact readable_fieldValue _ _ _

end WidgetBindings.Document
