import WidgetBindings.Proofs.Document.Members

/-!
# Which documents are well-formed bytes

What is read of a document is checked: its texts, its keys and its values, and all bytes outside
strings. A member of the document itself that is no field is passed over, and what stands in the
strings of its value is not looked at. So bytes that are not well-formed are refused
(`ill_formed_refused_or_hidden`), unless they are hidden in the value of such a member (`HiddenIn`).
There they count for nothing (`IsObject.own_iff`).
-/

namespace WidgetBindings.Document

open Json Json.Read

variable {depth : Nat} {unread rest bytes : List UInt8} {ms : List Member}

/-- Among these members of an object there is one that is no field and whose value is not
well-formed; by the grammar it is in the strings of the value that it is not. The values of all
fields are well-formed, and so are all bytes outside the values of such members. -/
structure HiddenIn (ms : List Member) (bytes : List UInt8) : Prop where
  hidden : ∃ m ∈ ms, Foreign m.name ∧ ¬ Text.WellFormed m.value
  fields : ∀ m ∈ ms, ¬ Foreign m.name → Text.WellFormed m.value
  around : Text.WellFormedBut ((ms.filter fun m => Foreign m.name).map (·.value)) bytes

/-! ## What has been checked -/

theorem checks_of_skipBlanks (h : Checks (skipBlanks unread) rest) : Checks unread rest :=
  ((runs_dropWhile isBlankByte unread).checks fun _ => lt_of_isBlankByte).trans h

theorem checks_of_value {v : Json} (h : value depth unread = .ok (v, rest)) : Checks unread rest :=
  (spans_value h).checks fun _ _ => Spelled.checks

theorem wellFormed_of_checks (h : Checks bytes []) : Text.WellFormed bytes := by
  obtain ⟨text, rfl, formed⟩ := h
  rwa [List.append_nil]

theorem wellFormed_of_value {v : Json} (h : value depth bytes = .ok (v, [])) :
    Text.WellFormed bytes :=
  wellFormed_of_checks (checks_of_value h)

/-- A document that is no object is well-formed. -/
theorem wellFormed_of_list {document : Document} (noObject : (skipBlanks bytes).head? ≠ some 123)
    (accepted : ofBytes bytes = .ok document) : Text.WellFormed bytes := by
  obtain ⟨items, list, _⟩ := (ofBytes_iff_list noObject).1 accepted
  obtain ⟨behind, list, blanks⟩ := all_eq_ok_iff.1 list
  have last : Checks behind [] := checks_of_skipBlanks (blanks ▸ .refl _)
  exact wellFormed_of_checks ((checks_of_value list).trans last)

/-- What is read of a document are the values of its fields. -/
theorem Holds.wellFormed {final : Draft} (h : Holds depth {} ms final) {m : Member} (hm : m ∈ ms)
    (field : ¬ Foreign m.name) : Text.WellFormed m.value := by
  have mem {name : String} (named : m.name = name) : m.value ∈ valuesOf name ms :=
    List.mem_map_of_mem (List.mem_filter.2 ⟨hm, decide_eq_true named⟩)
  by_cases isVariables : m.name = "variables"
  · obtain ⟨_, read⟩ := h.identifiers.reads (mem isVariables)
    exact wellFormed_of_value (readIdentifiers_iff.1 read)
  · have isValues : m.name = "values" := by
      by_contra isValues
      exact field ⟨isVariables, isValues⟩
    obtain ⟨_, read⟩ := h.values.reads (mem isValues)
    exact wellFormed_of_value (mapOf_eq_ok_iff.1 read)

/-- Outside the values of its members an object is well-formed. -/
theorem IsObject.wellFormedBut (h : IsObject ms bytes) :
    Text.WellFormedBut (ms.map (·.value)) bytes := by
  cases h with
  | of blank writes space =>
    have bracket : Text.WellFormed [123] := Text.wellFormed_nil.cons (by decide)
    have front := blank.wellFormed.append bracket
    have whole := front.before (writes.wellFormedBut.append space.wellFormed)
    rwa [List.append_assoc, List.singleton_append] at whole

/-- In a document that is an object bytes that are not well-formed are hidden. -/
theorem IsObject.hiddenIn {document : Document} (h : IsObject ms bytes)
    (accepted : ofBytes bytes = .ok document) (bad : ¬ Text.WellFormed bytes) :
    HiddenIn ms bytes := by
  obtain ⟨draft, holds, _⟩ := (ofBytes_eq_ok_iff h).1 accepted
  have fields : ∀ m ∈ ms, ¬ Foreign m.name → Text.WellFormed m.value :=
    fun m hm field => holds.wellFormed hm field
  refine ⟨?_, fields, h.wellFormedBut.filter fun m hm field => ?_⟩
  · by_contra none
    refine bad (h.wellFormedBut.wellFormed (List.forall_mem_map.2 fun m hm => ?_))
    by_cases foreign : Foreign m.name
    · by_contra formed
      exact none ⟨m, hm, foreign, formed⟩
    · exact fields m hm foreign
  · exact fields m hm fun foreign => field (decide_eq_true foreign)

/-! ## Bytes that are not well-formed -/

/-- **Bytes that are not well-formed are refused, unless they are hidden in the value of a member
that is no field.** If they are not refused, they are an object, and its fields and whatever stands
outside the values are well-formed. Hidden there they count for nothing: the object is the document
that its fields are by themselves. -/
theorem ill_formed_refused_or_hidden (bytes : List UInt8) (bad : ¬ Text.WellFormed bytes) :
    (Refused bytes ∨
      (∃ ms, IsObject ms bytes) ∧ ∀ ms, IsObject ms bytes → HiddenIn ms bytes) ∧
    ∀ ms, IsObject ms bytes → ∀ document,
      ofBytes bytes = .ok document ↔ ofBytes (objectBytes (own ms)) = .ok document := by
  refine ⟨?_, fun ms h document => h.own_iff⟩
  by_cases accepted : ∃ document, ofBytes bytes = .ok document
  · obtain ⟨document, accepted⟩ := accepted
    have object : (skipBlanks bytes).head? = some 123 := by
      by_contra noObject
      exact bad (wellFormed_of_list noObject accepted)
    exact .inr ⟨exists_isObject object accepted, fun ms h => h.hiddenIn accepted bad⟩
  · exact .inl (refused_iff.2 (not_exists.1 accepted))

/-- Two bytes that begin no character, in the value of a member that is no field. -/
def tagged : List Member := [⟨"generator", [34, 255, 254, 34]⟩]

/-- The same member before a field in which there is such a byte. -/
def spoilt : List Member :=
  tagged ++ [⟨"values", Text.toBytes "\x7b\"ui_a_name\":\"" ++ [255, 34, 125]⟩]

/-- Such bytes are refused before an object and in a field of one, and accepted in the string of a
member that is no field. -/
theorem ill_formed_refused_or_hidden_both :
    (¬ Text.WellFormed [255, 254, 123, 125] ∧ Refused [255, 254, 123, 125]) ∧
    (¬ Text.WellFormed (objectBytes spoilt) ∧ Refused (objectBytes spoilt)) ∧
    (¬ Text.WellFormed (objectBytes tagged) ∧ HiddenIn tagged (objectBytes tagged) ∧
      ofBytes (objectBytes tagged) = .ok ⟨[], []⟩) := by
  have isSpoilt : IsObject spoilt (objectBytes spoilt) := isObject_of_skip (by decide +kernel)
  have isTagged : IsObject tagged (objectBytes tagged) := isObject_of_skip (by decide +kernel)
  have front : ¬ Text.WellFormed [255, 254, 123, 125] :=
    mt Text.wellFormed_iff.1 (by decide +kernel)
  have field : ¬ Text.WellFormed (objectBytes spoilt) :=
    mt Text.wellFormed_iff.1 (by decide +kernel)
  have passed : ¬ Text.WellFormed (objectBytes tagged) :=
    mt Text.wellFormed_iff.1 (by decide +kernel)
  have without : ofBytes (objectBytes (own tagged)) = .ok ⟨[], []⟩ :=
    eq_ok_of_toOption (by decide +kernel)
  have accepted : ofBytes (objectBytes tagged) = .ok ⟨[], []⟩ :=
    ((ill_formed_refused_or_hidden _ passed).2 tagged isTagged _).2 without
  refine ⟨⟨front, ?_⟩, ⟨field, ?_⟩, passed, ?_, accepted⟩
  · obtain refused | ⟨⟨ms, isObject⟩, _⟩ := (ill_formed_refused_or_hidden _ front).1
    · exact refused
    · obtain ⟨_, _, begins, _⟩ := isObject.skipBlanks_eq
      cases begins
  · obtain refused | ⟨_, all⟩ := (ill_formed_refused_or_hidden _ field).1
    · exact refused
    · have fields := (all spoilt isSpoilt).fields
      have formed := fields _ (List.mem_append_right _ (List.mem_singleton_self _))
        not_foreign_values
      exact absurd (Text.wellFormed_iff.1 formed) (by decide +kernel)
  · obtain refused | ⟨_, all⟩ := (ill_formed_refused_or_hidden _ passed).1
    · exact absurd accepted (refused_iff.1 refused _)
    · exact all tagged isTagged

/-- The bytes of an object that names its generator by a byte that is no character. -/
def illFormed : List UInt8 := [123, 34, 103, 101, 110, 101, 114, 97, 116, 111, 114, 34, 58, 34, 255,
  34, 125]

/-- These bytes are no text, but they are taken for an empty document. -/
theorem ill_formed_document :
    ¬ Text.WellFormed illFormed ∧ ofBytes illFormed = .ok ⟨[], []⟩ ∧ ¬ Refused illFormed := by
  have bad : ¬ Text.WellFormed illFormed := mt Text.wellFormed_iff.1 (by decide +kernel)
  have accepted : ofBytes illFormed = .ok ⟨[], []⟩ := eq_ok_of_toOption (by decide +kernel)
  exact ⟨bad, accepted, fun refused => refused_iff.1 refused _ accepted⟩

end WidgetBindings.Document
