import WidgetBindings.Proofs.Overlay.Addressing
import WidgetBindings.Proofs.Overlay.Survival

/-!
# The last usable key decides

Several keys of a document may write the same field, for some fields go by more than one name, and a
key may be of no use at all.

* `value_apply`: an edit sets its field and leaves the other five alone;
* `value_applyAll_iff`: after all keys a field holds what the last key has given it that wrote it,
  and what it held before if there was none;
* `overlay_last_writer`: the same for each entry of a store. Nothing else in a document counts.
-/

namespace WidgetBindings

/-- An edit sets its field and leaves the other five alone. -/
theorem Entry.value_apply (entry : Entry) (edit : Edit) (field : Field) :
    (entry.apply edit).value field =
      if edit.field = field then edit.value else entry.value field := by
  cases edit <;> cases field <;> rfl

/-- A member of a document sets a field of an entry to a flat value: its key is made of the
identifier and one of the names of the field, and its value suits the field. -/
structure Writes (identifier : String) (field : Field) (member : String × Json)
    (flat : FieldValue) : Prop where
  addresses : ∃ name ∈ field.keyNames, member.1 = identifier ++ "_" ++ name
  suits : Suits field member.2 flat

/-- What the members of a document make of a field: the value of the last that writes it, and the
old value if none does. -/
def LastWritten (identifier : String) (field : Field) (values : List (String × Json))
    (old flat : FieldValue) : Prop :=
  (∃ before member after, values = before ++ member :: after ∧
    Writes identifier field member flat ∧ ∀ m ∈ after, ∀ v, ¬ Writes identifier field m v) ∨
  (flat = old ∧ ∀ m ∈ values, ∀ v, ¬ Writes identifier field m v)

section
variable {identifier : String} {field : Field} {old flat : FieldValue}

theorem lastWritten_nil : LastWritten identifier field [] old flat ↔ flat = old := by
  simp [LastWritten]

/-- The first member counts as the old value for those after it, if it writes the field. -/
theorem lastWritten_cons {member : String × Json} {rest : List (String × Json)} :
    LastWritten identifier field (member :: rest) old flat ↔
      (∃ v, Writes identifier field member v ∧ LastWritten identifier field rest v flat) ∨
      ((∀ v, ¬ Writes identifier field member v) ∧ LastWritten identifier field rest old flat) := by
  constructor
  · rintro (⟨before, last, after, whole, writes, none_after⟩ | ⟨rfl, none_writes⟩)
    · cases before with
      | nil =>
        obtain ⟨rfl, rfl⟩ := List.cons.inj whole
        exact .inl ⟨flat, writes, .inr ⟨rfl, none_after⟩⟩
      | cons first before =>
        obtain ⟨rfl, rfl⟩ := List.cons.inj whole
        have later (v : FieldValue) :
            LastWritten identifier field (before ++ last :: after) v flat :=
          .inl ⟨before, last, after, rfl, writes, none_after⟩
        by_cases first_writes : ∃ v, Writes identifier field member v
        · obtain ⟨v, hv⟩ := first_writes
          exact .inl ⟨v, hv, later v⟩
        · exact .inr ⟨not_exists.1 first_writes, later old⟩
    · obtain ⟨first, others⟩ := List.forall_mem_cons.1 none_writes
      exact .inr ⟨first, .inr ⟨rfl, others⟩⟩
  · rintro (⟨v, hv, ⟨before, last, after, rfl, writes, none_after⟩ | ⟨rfl, others⟩⟩ |
      ⟨first, ⟨before, last, after, rfl, writes, none_after⟩ | ⟨rfl, others⟩⟩)
    · exact .inl ⟨member :: before, last, after, rfl, writes, none_after⟩
    · exact .inl ⟨[], member, rest, rfl, hv, others⟩
    · exact .inl ⟨member :: before, last, after, rfl, writes, none_after⟩
    · exact .inr ⟨rfl, List.forall_mem_cons.2 ⟨first, others⟩⟩

end

namespace Document

open Store (editsFor)

/-- The edit that a member makes to the entry of an identifier. -/
def editOf? (present : String → Bool) (identifier : String) (member : String × Json) :
    Option Edit :=
  match Verdict.of present member.1 member.2 with
  | .applied id edit => if id = identifier then some edit else none
  | .withoutSuffix | .unknownField | .stale _ | .rejected => none

theorem edits_eq (document : Document) (store : Store) :
    document.edits store =
      document.values.filterMap fun m => (Verdict.of store.contains m.1 m.2).edits? := by
  rw [edits, judge, List.filterMap_map]
  rfl

theorem editsFor_edits (document : Document) (store : Store) (identifier : String) :
    editsFor (document.edits store) identifier =
      document.values.filterMap (editOf? store.contains identifier) := by
  rw [edits_eq, editsFor]
  induction document.values with
  | nil => rfl
  | cons m rest ih =>
    cases h : Verdict.of store.contains m.1 m.2 with
    | withoutSuffix | unknownField | stale _ | rejected =>
      simpa [Verdict.edits?, editOf?, h] using ih
    | applied id edit =>
      by_cases same : id = identifier <;> simpa [Verdict.edits?, editOf?, h, same] using ih

variable {present : String → Bool} {identifier : String}

theorem editOf?_eq_some_iff {member : String × Json} {edit : Edit} :
    editOf? present identifier member = some edit ↔
      Verdict.of present member.1 member.2 = .applied identifier edit := by
  unfold editOf?
  cases Verdict.of present member.1 member.2 with
  | withoutSuffix | unknownField | stale _ | rejected => simp
  | applied id e =>
    by_cases same : id = identifier <;> simp [same]

/-- A member writes the field that its edit sets, and no other. -/
theorem writes_iff (there : present identifier = true) (named : identifier ≠ "") {field : Field}
    {member : String × Json} {flat : FieldValue} :
    Writes identifier field member flat ↔
      ∃ edit, editOf? present identifier member = some edit ∧ edit.field = field ∧
        edit.value = flat := by
  simp only [editOf?_eq_some_iff, Verdict.of_eq_applied_iff, there, target?_eq_some_iff, named,
    ne_eq, not_false_eq_true, true_and]
  constructor
  · rintro ⟨addresses, suits⟩
    obtain ⟨edit, _, rfl, rfl⟩ := suits.edit?_eq_some
    exact ⟨edit, ⟨addresses, suits⟩, rfl, rfl⟩
  · rintro ⟨edit, ⟨addresses, suits⟩, rfl, rfl⟩
    exact ⟨addresses, suits⟩

/-- After all members a field holds what the last one has given it that wrote it. -/
theorem value_applyAll_iff (there : present identifier = true) (named : identifier ≠ "")
    (values : List (String × Json)) (entry : Entry) (field : Field) (flat : FieldValue) :
    (entry.applyAll (values.filterMap (editOf? present identifier))).value field = flat ↔
      LastWritten identifier field values (entry.value field) flat := by
  induction values generalizing entry with
  | nil => simp [Entry.applyAll, lastWritten_nil, eq_comm]
  | cons member rest ih =>
    rw [lastWritten_cons]
    simp only [writes_iff there named]
    cases made : editOf? present identifier member with
    | none =>
      rw [List.filterMap_cons_none made, ih]
      simp
    | some edit =>
      rw [List.filterMap_cons_some made, Entry.applyAll, List.foldl_cons, ← Entry.applyAll, ih,
        Entry.value_apply]
      by_cases same : edit.field = field <;> simp [same]

/-- A member that writes no field of any entry may be left out. -/
theorem overlay_without {document : Document} {store : Store}
    {before after : List (String × Json)} {member : String × Json}
    (whole : document.values = before ++ member :: after)
    (idle : ∀ id ∈ store.identifiers, ∀ field flat, ¬ Writes id field member flat) :
    (⟨document.identifiers, before ++ after⟩ : Document).overlay store =
      document.overlay store := by
  have unused : (Verdict.of store.contains member.1 member.2).edits? = none := by
    cases h : Verdict.of store.contains member.1 member.2 with
    | withoutSuffix | unknownField | stale _ | rejected => rfl
    | applied id edit =>
      obtain ⟨there, target, _⟩ := Verdict.of_eq_applied_iff.1 h
      have named := (target?_eq_some_iff.1 target).1
      have writes := (writes_iff there named).2 ⟨edit, editOf?_eq_some_iff.2 h, rfl, rfl⟩
      exact absurd writes (idle id ((store.contains_iff id).1 there) _ _)
  have cons : (member :: after).filterMap (fun m => (Verdict.of store.contains m.1 m.2).edits?) =
      after.filterMap fun m => (Verdict.of store.contains m.1 m.2).edits? :=
    List.filterMap_cons_none unused
  rw [overlay, overlay, edits_eq, edits_eq, whole, List.filterMap_append, List.filterMap_append,
    cons]

/-- **The last usable key decides.** A document is laid over a store that any calls about
identifiers that are not empty have built. The identifiers stay as they are. Each field of each
entry then holds what the last key has given it that addresses the field and has a value that suits
it, and keeps what it held if there is no such key. The identifiers that the document lists do not
matter, nor does a key that writes no field of any entry. -/
theorem overlay_last_writer (document : Document) (calls : List Store.Call)
    (named : ∀ c ∈ calls, c.identifier ≠ "") :
    let store := Store.ofCalls calls
    let loaded := document.overlay store
    loaded.identifiers = store.identifiers ∧
    (∀ e ∈ store.toList, ∃ e', loaded.get? e.identifier = some e' ∧ ∀ field flat,
      e'.value field = flat ↔
        LastWritten e.identifier field document.values (e.value field) flat) ∧
    (∀ identifiers, (⟨identifiers, document.values⟩ : Document).overlay store = loaded) ∧
    (∀ before member after, document.values = before ++ member :: after →
      (∀ id ∈ store.identifiers, ∀ field flat, ¬ Writes id field member flat) →
      (⟨document.identifiers, before ++ after⟩ : Document).overlay store = loaded) := by
  intro store loaded
  refine ⟨identifiers_overlay document store, fun e he => ?_, fun _ => rfl,
    fun before member after whole idle => overlay_without whole idle⟩
  have mem : e.identifier ∈ store.identifiers := List.mem_map_of_mem he
  have name : e.identifier ≠ "" := by
    obtain ⟨c, hc, same⟩ := Store.mem_identifiers_ofCalls mem
    exact same ▸ named c hc
  have listed : e.applyAll (editsFor (document.edits store) e.identifier) ∈ loaded.toList := by
    rw [toList_overlay]
    exact List.mem_map_of_mem he
  have found := Store.get?_of_mem listed
  rw [Entry.identifier_applyAll] at found
  refine ⟨_, found, fun field flat => ?_⟩
  rw [editsFor_edits]
  exact value_applyAll_iff ((store.contains_iff _).2 mem) name _ e field flat

/-- A document in which two names of one field compete, with a key of another entry that begins like
one of this entry, and a value that suits no field. -/
def aliasedDocument : Document := ⟨["ui_gone"], [
  ("ui_a_event", .string "LV_EVENT_KEY"),
  ("ui_a_evt", .string "LV_EVENT_CLICKED"),
  ("ui_a_name_event", .string "LV_EVENT_DELETE"),
  ("ui_a_consume", .string "true")]⟩

theorem overlay_last_writer_aliased :
    (∀ c ∈ nestedCalls, c.identifier ≠ "") ∧
    ∃ e, (aliasedDocument.overlay (Store.ofCalls nestedCalls)).get? "ui_a" = some e ∧
      e.value .event = .text EventCode.clicked.tag := by
  have named : ∀ c ∈ nestedCalls, c.identifier ≠ "" := by
    simp [nestedCalls, Store.Call.identifier, Entry.ofMapping]
  have there : Entry.ofMapping "ui_a" "first \"a\"" .fallback ∈
      (Store.ofCalls nestedCalls).toList := by
    decide +kernel
  obtain ⟨_, entries, _⟩ := overlay_last_writer aliasedDocument nestedCalls named
  obtain ⟨e, found, fields⟩ := entries _ there
  refine ⟨named, e, found, (fields .event _).2 (.inl ⟨[_], _, [_, _], rfl, ?_, ?_⟩)⟩
  · exact ⟨⟨"evt", by decide, rfl⟩, .event .clicked⟩
  · intro m hm v writes
    obtain ⟨name, known, key⟩ := writes.addresses
    clear writes
    revert m name
    decide

end Document

end WidgetBindings
