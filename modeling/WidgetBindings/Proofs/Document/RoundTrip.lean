import WidgetBindings.Proofs.Document.Text
import WidgetBindings.Proofs.Json.Items

/-!
# The text of a document and back

A document is the snapshot of a store, or it has been read (`Arises`). Either way the keys of its
values are distinct and the values are of the kind that can be printed and read again
(`Arises.kept`), so that its text stands for this document and for no other one
(`text_stands_for_document`), unless it holds floats.
-/

namespace WidgetBindings.Document

open Json Json.Read

variable {depth : Nat} {unread rest : List UInt8}

/-- The documents that there are: snapshots of stores, and what has been read. -/
inductive Arises : Document → Prop
  | snapshot (store : Store) : Arises (ofStore store)
  | read {bytes : List UInt8} {document : Document} :
      ofBytes bytes = .ok document → Arises document

/-- No value of the document has a float in it. -/
def FloatFree (document : Document) : Prop := ∀ m ∈ document.values, Json.FloatFree m.2

/-! ## What has been read -/

theorem keptMembers_of_readValues {values : List (String × Json)}
    (h : readValues (depth + 1) unread = .ok (values, rest)) : KeptMembers depth values := by
  unfold readValues mapOf at h
  split at h
  · cases h
  · split at h
    · exact object_kept kept_of_value h
    · exact absurd h (wrongType_ne_ok _)

theorem once_eq_ok {α σ : Type} {name : String} {seen : Option α}
    {read : List UInt8 → Except Fault (α × List UInt8)} {set : α → σ} {s : σ}
    (h : once name seen read set unread = .ok (s, rest)) :
    ∃ begun a, colon unread = .ok begun ∧ read begun = .ok (a, rest) ∧ s = set a := by
  unfold once at h
  split at h
  · cases h
  · obtain ⟨begun, sign, h⟩ := bind_eq_ok_iff.1 (inside_eq_ok h)
    obtain ⟨⟨a, _⟩, read, h⟩ := bind_eq_ok_iff.1 h
    cases h
    exact ⟨begun, a, sign, read, rfl⟩

/-- The values that have been read so far are of the kind that can be printed, whatever member comes
next. -/
theorem readMember_keeps {draft next : Draft} {key : String}
    (kept : KeptMembers depth draft.finish.values)
    (h : readMember (depth + 1) draft key unread = .ok (next, rest)) :
    KeptMembers depth next.finish.values := by
  unfold readMember at h
  split at h
  · obtain ⟨_, _, _, _, rfl⟩ := once_eq_ok h
    exact kept
  · split at h
    · obtain ⟨_, _, _, read, rfl⟩ := once_eq_ok h
      exact keptMembers_of_readValues read
    · obtain ⟨_, _, h⟩ := bind_eq_ok_iff.1 (inside_eq_ok h)
      obtain ⟨_, _, h⟩ := bind_eq_ok_iff.1 h
      cases h
      exact kept

theorem field?_eq_ok_iff {α : Type} {first : Bool} {found : Option α}
    {read : List UInt8 → Except Fault (α × List UInt8)} :
    field? first read unread = .ok (found, rest) ↔
      (found = none ∧ nextElement first unread = .ok (false, rest)) ∨
      ∃ begun a, nextElement first unread = .ok (true, begun) ∧ read begun = .ok (a, rest) ∧
        found = some a := by
  constructor
  · intro h
    obtain ⟨⟨more, begun⟩, next, h⟩ := bind_eq_ok_iff.1 (inside_eq_ok h)
    cases more with
    | false =>
      cases h
      exact .inl ⟨rfl, next⟩
    | true =>
      obtain ⟨⟨a, _⟩, read, h⟩ := bind_eq_ok_iff.1 h
      cases h
      exact .inr ⟨begun, a, next, read, rfl⟩
  · rintro (⟨rfl, next⟩ | ⟨begun, a, next, read, rfl⟩)
    · simp only [field?, next, bind, Except.bind]
      rfl
    · simp only [field?, next, read, bind, Except.bind]
      rfl

theorem readFields_kept {document : Document}
    (h : readFields (depth + 1) unread = .ok (document, rest)) :
    KeptMembers depth document.values := by
  obtain ⟨⟨identifiers, _⟩, _, h⟩ := bind_eq_ok_iff.1 h
  obtain ⟨⟨values, _⟩, second, h⟩ := bind_eq_ok_iff.1 h
  cases h
  obtain ⟨rfl, _⟩ | ⟨_, values, _, read, rfl⟩ := field?_eq_ok_iff.1 second
  · exact keptMembers_nil depth
  · exact keptMembers_of_readValues read

/-- The values of a document that has been read, as a list or as an object. -/
theorem read_kept {document : Document}
    (h : read (depth + 2) unread = .ok (document, rest)) : KeptMembers depth document.values := by
  unfold read record at h
  split at h
  · cases h
  · split at h
    · obtain ⟨_, fields, _⟩ := leaveList_eq_ok h
      exact readFields_kept fields
    · split at h
      · obtain ⟨_, all, _⟩ := leaveObject_eq_ok h
        obtain ⟨⟨draft, _⟩, all, h⟩ := bind_eq_ok_iff.1 all
        cases h
        exact members_keeps (P := fun draft => KeptMembers depth draft.finish.values)
          (fun _ _ _ _ _ kept step => readMember_keeps kept step) (keptMembers_nil depth) all
      · exact absurd h (wrongType_ne_ok _)

/-! ## Any document -/

/-- The values of a document are of the kind that can be printed and read again. -/
theorem Arises.kept {document : Document} (h : document.Arises) :
    KeptMembers (nestingLimit - 2) document.values := by
  cases h with
  | snapshot store =>
    refine ⟨nodup_keys_ofStore store, fun m hm => ?_⟩
    obtain ⟨e, _, hm⟩ := List.mem_flatMap.1 hm
    obtain ⟨field, _, rfl⟩ := List.mem_map.1 hm
    cases e.value field with
    | text s => exact .string _ s
    | flag b => exact .bool _ b
  | read h =>
    obtain ⟨_, h, _⟩ := all_eq_ok_iff.1 h
    exact @read_kept (nestingLimit - 2) _ _ _ h

/-- **The text of a document stands for this document and for no other one.** A document without
floats comes back from its text, with its identifiers and with its values in their order. Two such
documents with the same text are the same, and to print what has been read gives the text again. -/
theorem text_stands_for_document {document : Document} (arises : document.Arises)
    (floatFree : document.FloatFree) :
    ofBytes (Text.toBytes document.text) = .ok document ∧
    (∀ other : Document, other.Arises → other.FloatFree → other.text = document.text →
      other = document) ∧
    ∀ again, ofBytes (Text.toBytes document.text) = .ok again → again.text = document.text := by
  have back {d : Document} (arises : d.Arises) (floatFree : d.FloatFree) :
      ofBytes (Text.toBytes d.text) = .ok d :=
    ofBytes_text arises.kept.distinct fun m hm =>
      readable_value (arises.kept.each m hm) (floatFree m hm) 2
  have this_one := back arises floatFree
  refine ⟨this_one, fun other arises' floatFree' same => ?_, fun again read => ?_⟩
  · have that_one := back arises' floatFree'
    rw [same, this_one] at that_one
    exact (Except.ok.inj that_one).symm
  · rw [this_one] at read
    rw [Except.ok.inj read]

deriving instance DecidableEq for Document

/-- A text with a member that is no part of a document, a key that occurs again in each object, the
largest and the least number, and a character that is written as two escapes. -/
def nestedText : String :=
  "\x7b\"generator\": 1.5, \"values\": \x7b\"b\": -9223372036854775808, " ++
  "\"a\": [18446744073709551615, \x7b\"\": null, \"k\": \"\\\"\\u0001\", \"k\": []\x7d], " ++
  "\"b\": \"\\ud83d\\ude00\\n\"\x7d, \"variables\": [\"ui_a\", \"\"]\x7d"

/-- What that text stands for. -/
def nested : Document where
  identifiers := ["ui_a", ""]
  values := [("b", .string "😀\n"),
    ("a", .array [.number (.integer 18446744073709551615 (by decide)),
      .object [("", .null), ("k", .array [])]])]

theorem floatFree_nested : nested.FloatFree := by
  have inner : Json.FloatFree (.object [("", .null), ("k", .array [])]) :=
    .object (List.forall_mem_cons.2 ⟨.null, List.forall_mem_singleton.2 (.array (by simp))⟩)
  exact List.forall_mem_cons.2 ⟨.string _, List.forall_mem_singleton.2
    (.array (List.forall_mem_cons.2 ⟨.integer _ _, List.forall_mem_singleton.2 inner⟩))⟩

theorem text_stands_for_document_nested :
    ofBytes (Text.toBytes nestedText) = .ok nested ∧
    ofBytes (Text.toBytes nested.text) = .ok nested := by
  have read : ofBytes (Text.toBytes nestedText) = .ok nested :=
    eq_ok_of_toOption (by decide +kernel)
  exact ⟨read, (text_stands_for_document (.read read) floatFree_nested).1⟩

end WidgetBindings.Document
