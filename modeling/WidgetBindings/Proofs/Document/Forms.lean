import WidgetBindings.Proofs.Document.RoundTrip
import WidgetBindings.Proofs.Program.Outcome
import WidgetBindings.Session

/-!
# The forms of a document

A document is an object. But as a record it is also read from a list of its fields in their order,
where the last ones may be missing (`ListForm`). No other list is a document, and no other value
that is not an object (`list_is_document_or_refused`). Bytes that are no document are refused
wherever they are loaded (`Refused`).
-/

namespace WidgetBindings.Document

open Json Json.Read

variable {depth : Nat} {unread rest bytes : List UInt8}

/-! ## Refused bytes -/

/-- The bytes are no document. To load them fails, and a session that loads them stays as it is. -/
def Refused (bytes : List UInt8) : Prop :=
  ∃ complaint, ofBytes bytes = .error complaint ∧
    (∀ path disk, disk.read path = .ok bytes →
      (load? path).run disk = (.error (.malformed path complaint), disk)) ∧
    ∀ (session : Session) disk, disk.read session.project.documentPath = .ok bytes →
      session.load.run disk = ((session, .unparsable), disk)

theorem refused_iff : Refused bytes ↔ ∀ document, ofBytes bytes ≠ .ok document := by
  constructor
  · rintro ⟨complaint, refused, _⟩ document accepted
    rw [refused] at accepted
    cases accepted
  · intro none
    obtain ⟨complaint, refused⟩ : ∃ complaint, ofBytes bytes = .error complaint := by
      cases h : ofBytes bytes with
      | error complaint => exact ⟨complaint, rfl⟩
      | ok document => exact absurd h (none document)
    refine ⟨complaint, refused, fun path disk held => ?_, fun session disk held => ?_⟩
    · simp [load?, decode, held, refused]
    · simp [Session.load, loadFor, load?, decode, held, refused]

/-! ## Fields -/

theorem readIdentifiers_iff {identifiers : List String} :
    readIdentifiers depth unread = .ok (identifiers, rest) ↔
      value depth unread = .ok (.array (identifiers.map .string), rest) := by
  have progresses (depth : Nat) : Progresses (Json.Read.text "a string") :=
    fun _ _ _ h => value_progresses depth _ _ _ (text_eq_ok_iff.1 h)
  have same (inner : Nat) {inside between : List UInt8} :
      Items (Json.Read.text "a string") true inside identifiers between ↔
        Items (value inner) true inside (identifiers.map .string) between :=
    Items.map fun _ _ _ => text_eq_ok_iff
  rw [readIdentifiers, listOf_eq_ok_iff progresses, value_eq_array_iff]
  exact exists_congr fun inner => by simp only [same inner]

theorem nextElement_of_closeList (first : Bool) (h : closeList unread = .ok rest) :
    nextElement first unread = .ok (false, 93 :: rest) := by
  rw [nextElement, closeList_eq_ok h]
  rfl

/-- Where a list ends, it ends again. -/
theorem nextElement_again {first : Bool} {found : List UInt8}
    (last : nextElement first unread = .ok (false, found)) :
    nextElement first found = .ok (false, found) ∧ closeList unread = closeList found := by
  obtain ⟨_, rfl⟩ | ⟨h, _⟩ | ⟨h, _⟩ := nextElement_eq_ok last
  · refine ⟨?_, by rw [closeList, closeList, skipBlanks_skipBlanks]⟩
    rw [← last, nextElement, skipBlanks_skipBlanks]
    rfl
  · cases h
  · cases h

/-- A list of the fields of a document in their order. Those that are missing are empty. -/
inductive ListForm : List Json → Document → Prop
  | none : ListForm [] ⟨[], []⟩
  | identifiers (identifiers : List String) :
      ListForm [.array (identifiers.map .string)] ⟨identifiers, []⟩
  | both (identifiers : List String) (values : List (String × Json)) :
      ListForm [.array (identifiers.map .string), .object values] ⟨identifiers, values⟩

/-- The fields are read from a list if and only if it is one of them in their order. -/
theorem readFields_iff {document : Document} :
    (∃ between, readFields depth unread = .ok (document, between) ∧ closeList between = .ok rest) ↔
      ∃ items between, Items (value depth) true unread items between ∧
        closeList between = .ok rest ∧ ListForm items document := by
  constructor
  · rintro ⟨between, read, closed⟩
    obtain ⟨⟨identifiers, middle⟩, first, read⟩ := bind_eq_ok_iff.1 read
    obtain ⟨⟨values, _⟩, second, read⟩ := bind_eq_ok_iff.1 read
    cases read
    obtain ⟨rfl, last⟩ | ⟨begun, identifiers, next, list, rfl⟩ := field?_eq_ok_iff.1 first
    · obtain ⟨rfl, again⟩ | ⟨begun, values, more, _⟩ := field?_eq_ok_iff.1 second
      · cases (nextElement_again last).1.symm.trans again
        exact ⟨_, _, .stop last, closed, .none⟩
      · cases (nextElement_again last).1.symm.trans more
    · have list := readIdentifiers_iff.1 list
      obtain ⟨rfl, last⟩ | ⟨begun, values, more, object, rfl⟩ := field?_eq_ok_iff.1 second
      · exact ⟨_, _, .next next list (.stop last), closed, .identifiers _⟩
      · have last := nextElement_of_closeList false closed
        exact ⟨_, _, .next next list (.next more (mapOf_eq_ok_iff.1 object) (.stop last)),
          (nextElement_again last).2 ▸ closed, .both _ _⟩
  · rintro ⟨items, between, items, closed, form⟩
    cases form with
    | none =>
      cases items with
      | stop last =>
        refine ⟨between, bind_eq_ok_iff.2 ⟨_, field?_eq_ok_iff.2 (.inl ⟨rfl, last⟩), ?_⟩, closed⟩
        exact bind_eq_ok_iff.2
          ⟨_, field?_eq_ok_iff.2 (.inl ⟨rfl, (nextElement_again last).1⟩), rfl⟩
    | identifiers identifiers =>
      cases items with
      | next next list others =>
        cases others with
        | stop last =>
          have first := field?_eq_ok_iff.2 (.inr ⟨_, _, next, readIdentifiers_iff.2 list, rfl⟩)
          refine ⟨between, bind_eq_ok_iff.2 ⟨_, first, ?_⟩, closed⟩
          exact bind_eq_ok_iff.2 ⟨_, field?_eq_ok_iff.2 (.inl ⟨rfl, last⟩), rfl⟩
    | both identifiers values =>
      cases items with
      | next next list others =>
        cases others with
        | next more object others =>
          cases others with
          | stop last =>
            have first := field?_eq_ok_iff.2 (.inr ⟨_, _, next, readIdentifiers_iff.2 list, rfl⟩)
            have second := field?_eq_ok_iff.2 (.inr ⟨_, _, more, mapOf_eq_ok_iff.2 object, rfl⟩)
            refine ⟨_, bind_eq_ok_iff.2 ⟨_, first, ?_⟩, (nextElement_again last).2.trans closed⟩
            exact bind_eq_ok_iff.2 ⟨_, second, rfl⟩

/-- What does not begin as an object is read as a document if and only if it is a list of the
fields in their order. -/
theorem read_iff_list {document : Document} (noObject : (skipBlanks unread).head? ≠ some 123) :
    read depth unread = .ok (document, rest) ↔
      ∃ items, value depth unread = .ok (.array items, rest) ∧ ListForm items document := by
  simp only [value_eq_array_iff]
  constructor
  · intro h
    unfold read record at h
    split at h
    · cases h
    · rename_i blanks
      split at h
      · rename_i bracket
        split at h
        · cases h
        · obtain ⟨between, fields, closed⟩ := leaveList_eq_ok h
          obtain ⟨items, between, items, closed, form⟩ := readFields_iff.1 ⟨between, fields, closed⟩
          exact ⟨_, ⟨_, _, between, rfl, bracket ▸ blanks, items, closed⟩, form⟩
      · split at h
        · rename_i bracket
          rw [blanks, bracket] at noObject
          exact absurd rfl noObject
        · exact absurd h (wrongType_ne_ok _)
  · rintro ⟨items, ⟨inner, inside, between, rfl, blanks, items, closed⟩, form⟩
    obtain ⟨between, fields, closed⟩ := readFields_iff.2 ⟨_, between, items, closed, form⟩
    rw [read, record, blanks]
    change leaveList (readFields inner inside) = _
    rw [fields, leaveList, closed]
    rfl

theorem ofBytes_iff_list {document : Document} (noObject : (skipBlanks bytes).head? ≠ some 123) :
    ofBytes bytes = .ok document ↔
      ∃ items, all (value nestingLimit) bytes = .ok (.array items) ∧ ListForm items document := by
  simp only [ofBytes, all_eq_ok_iff, read_iff_list noObject]
  constructor
  · rintro ⟨behind, ⟨items, list, form⟩, blanks⟩
    exact ⟨items, ⟨behind, list, blanks⟩, form⟩
  · rintro ⟨items, ⟨behind, list, blanks⟩, form⟩
    exact ⟨behind, ⟨items, list, form⟩, blanks⟩

/-- **A list of its fields is a document, and nothing else that is no object is one.** Bytes that do
not begin as an object spell a list of the fields in their order, where the last ones may be
missing, and then they are that document, or they are refused wherever they are loaded. -/
theorem list_is_document_or_refused (bytes : List UInt8)
    (noObject : (skipBlanks bytes).head? ≠ some 123) :
    (∃ items document, all (value nestingLimit) bytes = .ok (.array items) ∧
      ListForm items document ∧ ofBytes bytes = .ok document) ∨
    ((∀ items document, all (value nestingLimit) bytes = .ok (.array items) →
      ¬ ListForm items document) ∧ Refused bytes) := by
  by_cases accepted : ∃ document, ofBytes bytes = .ok document
  · obtain ⟨document, accepted⟩ := accepted
    obtain ⟨items, list, form⟩ := (ofBytes_iff_list noObject).1 accepted
    exact .inl ⟨items, document, list, form, accepted⟩
  · refine .inr ⟨fun items document list form => ?_, refused_iff.2 (not_exists.1 accepted)⟩
    exact accepted ⟨document, (ofBytes_iff_list noObject).2 ⟨items, list, form⟩⟩

/-- A truth value is refused. -/
theorem list_is_document_or_refused_true :
    (skipBlanks (Text.toBytes " true\n")).head? ≠ some 123 ∧
    Refused (Text.toBytes " true\n") := by
  have noObject : (skipBlanks (Text.toBytes " true\n")).head? ≠ some 123 := by decide +kernel
  have spelled : all (value nestingLimit) (Text.toBytes " true\n") = .ok (.bool true) :=
    eq_ok_of_toOption (by decide +kernel)
  refine ⟨noObject, ?_⟩
  obtain ⟨items, _, list, _⟩ | ⟨_, refused⟩ := list_is_document_or_refused _ noObject
  · rw [spelled] at list
    cases list
  · exact refused

/-- The empty list is no object, but it is taken for an empty document. -/
theorem empty_list_is_document :
    all (value nestingLimit) (Text.toBytes "[]") = .ok (.array []) ∧
    ofBytes (Text.toBytes "[]") = .ok ⟨[], []⟩ ∧ ¬ Refused (Text.toBytes "[]") := by
  have spelled : all (value nestingLimit) (Text.toBytes "[]") = .ok (.array []) :=
    eq_ok_of_toOption (by decide +kernel)
  have accepted : ofBytes (Text.toBytes "[]") = .ok ⟨[], []⟩ :=
    eq_ok_of_toOption (by decide +kernel)
  exact ⟨spelled, accepted, fun refused => refused_iff.1 refused _ accepted⟩

end WidgetBindings.Document
