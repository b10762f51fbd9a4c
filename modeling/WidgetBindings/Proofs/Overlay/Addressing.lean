import WidgetBindings.Overlay
import WidgetBindings.Proofs.Document.Key

/-!
# What a key says, and what a value says

A key of a document addresses one field of one entry, or nothing. A value suits a field, or it does
not. Both are described here without the functions that take them apart, and the verdict on a key
follows from the two:

* `target?_eq_some_iff`: a key addresses a field if it is the identifier, an underscore and one of
  the names that keys have for the field;
* `Suits.edit?_eq_some`, `suits_of_edit?`: a value suits a field exactly if an edit can be made of
  it;
* `Verdict.of_eq_applied_iff`: a key sets a field exactly if both fit an entry that is there.
-/

namespace WidgetBindings

namespace Field

/-- The names of a field at the end of a key. The long names are not among them, for they hold an
underscore, at which a key would come apart. -/
def keyNames : Field → List String
  | displayName => ["name"]
  | controlType => ["type"]
  | event => ["event", "evt"]
  | consume => ["con", "consume"]
  | produce => ["pro", "produce"]
  | group => ["grp", "group"]

theorem keyNames_spec {field : Field} {name : String} (h : name ∈ field.keyNames) :
    ofName name = .ok field ∧ name ≠ "" ∧ '_' ∉ name.toList := by
  cases field <;> simp only [keyNames, List.mem_cons, List.not_mem_nil, or_false] at h
  case displayName | controlType => subst h; decide
  all_goals obtain rfl | rfl := h <;> decide

/-- Without an underscore a field has the names that keys have for it, and no other. -/
theorem ofName_eq_ok_iff {name : String} {field : Field} (plain : '_' ∉ name.toList) :
    ofName name = .ok field ↔ name ∈ field.keyNames := by
  have long : name ≠ "display_name" ∧ name ≠ "control_type" := by
    constructor <;> rintro rfl <;> revert plain <;> decide
  constructor
  · intro h
    simp only [ofName, long, or_false] at h
    split_ifs at h <;> cases h <;> simp_all [keyNames]
  · exact fun h => (keyNames_spec h).1

end Field

/-! ## Keys -/

namespace Document

/-- The identifier and the field that a key addresses. -/
def target? (key : String) : Option (String × Field) :=
  match splitKey? key with
  | none => none
  | some (identifier, suffix) =>
    match Field.ofName suffix with
    | .error _ => none
    | .ok field => some (identifier, field)

theorem target?_iff_split {key identifier : String} {field : Field} :
    target? key = some (identifier, field) ↔
      ∃ suffix, splitKey? key = some (identifier, suffix) ∧ Field.ofName suffix = .ok field := by
  unfold target?
  cases splitKey? key with
  | none => simp
  | some parts =>
    obtain ⟨before, suffix⟩ := parts
    cases named : Field.ofName suffix with
    | error r => simp [named]
    | ok f => simp [named]

/-- A key addresses a field of the entry that all before its last underscore names. -/
theorem target?_eq_some_iff {key identifier : String} {field : Field} :
    target? key = some (identifier, field) ↔
      identifier ≠ "" ∧ ∃ name ∈ field.keyNames, key = identifier ++ "_" ++ name := by
  simp only [target?_iff_split, splitKey?_eq_some_iff]
  constructor
  · rintro ⟨suffix, ⟨rfl, named, _, plain⟩, known⟩
    exact ⟨named, suffix, (Field.ofName_eq_ok_iff plain).1 known, rfl⟩
  · rintro ⟨named, name, mem, rfl⟩
    obtain ⟨known, full, plain⟩ := Field.keyNames_spec mem
    exact ⟨name, ⟨rfl, named, full, plain⟩, known⟩

end Document

/-! ## Values -/

/-- The flat value that an edit gives to its field. -/
def Edit.value : Edit → FieldValue
  | .displayName value => .text value
  | .controlType value => .text value.tag
  | .event value => .text value.tag
  | .consume value => .flag value
  | .produce value => .flag value
  | .group value => .flag value

/-- The values that a field can take from a document, with the flat values that they give it: a flag
is set by a truth value, the display name by any text, and the kind of widget and the event by the
text of a tag. -/
inductive Suits : Field → Json → FieldValue → Prop
  | flag {field : Field} (isFlag : field.isFlag = true) (value : Bool) :
      Suits field (.bool value) (.flag value)
  | displayName (value : String) : Suits .displayName (.string value) (.text value)
  | controlType (type : ControlType) : Suits .controlType (.string type.tag) (.text type.tag)
  | event (event : EventCode) : Suits .event (.string event.tag) (.text event.tag)

theorem ControlType.tag_of_ofTag? {text : String} {type : ControlType}
    (h : ofTag? text = some type) : type.tag = text := by
  simpa using List.find?_some h

theorem EventCode.tag_of_ofTag? {text : String} {event : EventCode}
    (h : ofTag? text = some event) : event.tag = text := by
  simpa using List.find?_some h

/-- An edit is known from its field and the flat value that it gives it. -/
theorem Edit.eq_of_value {e f : Edit} (field : e.field = f.field) (value : e.value = f.value) :
    e = f := by
  have types {t u : ControlType} (h : t.tag = u.tag) : t = u := by
    simpa using congrArg ControlType.ofTag? h
  have events {t u : EventCode} (h : t.tag = u.tag) : t = u := by
    simpa using congrArg EventCode.ofTag? h
  cases e <;> cases f <;> cases field
  case displayName | consume | produce | group => simpa [Edit.value] using value
  case controlType => rw [types (FieldValue.text.inj value)]
  case event => rw [events (FieldValue.text.inj value)]

/-- Of a value that suits a field the edit can be made that gives the field this value. -/
theorem Suits.edit?_eq_some {field : Field} {value : Json} {flat : FieldValue}
    (h : Suits field value flat) :
    ∃ edit, Verdict.edit? field value = some edit ∧ edit.field = field ∧ edit.value = flat := by
  cases h with
  | flag isFlag value =>
    cases field <;> simp only [Field.isFlag, Bool.false_eq_true] at isFlag
    · exact ⟨.consume value, rfl, rfl, rfl⟩
    · exact ⟨.produce value, rfl, rfl, rfl⟩
    · exact ⟨.group value, rfl, rfl, rfl⟩
  | displayName value => exact ⟨.displayName value, rfl, rfl, rfl⟩
  | controlType type =>
    refine ⟨.controlType type, ?_, rfl, rfl⟩
    simp [Verdict.edit?, Verdict.flatValue?, Edit.ofValue, Field.isFlag, Edit.parse,
      Except.toOption]
  | event event =>
    refine ⟨.event event, ?_, rfl, rfl⟩
    simp [Verdict.edit?, Verdict.flatValue?, Edit.ofValue, Field.isFlag, Edit.parse,
      Except.toOption]

/-- An edit is made of values that suit its field, and of no other. -/
theorem suits_of_edit? {field : Field} {value : Json} {edit : Edit}
    (h : Verdict.edit? field value = some edit) :
    edit.field = field ∧ Suits field value edit.value := by
  cases value with
  | null | number _ | array _ | object _ => cases h
  | bool value =>
    cases field <;> cases h
    all_goals exact ⟨rfl, .flag rfl value⟩
  | string text =>
    cases field with
    | consume | produce | group => cases h
    | displayName =>
      cases h
      exact ⟨rfl, .displayName text⟩
    | controlType =>
      simp only [Verdict.edit?, Verdict.flatValue?, Edit.ofValue, Field.isFlag, Edit.parse] at h
      cases known : ControlType.ofTag? text with
      | none => simp [known, Except.toOption] at h
      | some type =>
        simp only [known, Except.toOption, Bool.false_eq_true, if_false, Option.some.injEq] at h
        subst h
        exact ⟨rfl, ControlType.tag_of_ofTag? known ▸ .controlType type⟩
    | event =>
      simp only [Verdict.edit?, Verdict.flatValue?, Edit.ofValue, Field.isFlag, Edit.parse] at h
      cases known : EventCode.ofTag? text with
      | none => simp [known, Except.toOption] at h
      | some event =>
        simp only [known, Except.toOption, Bool.false_eq_true, if_false, Option.some.injEq] at h
        subst h
        exact ⟨rfl, EventCode.tag_of_ofTag? known ▸ .event event⟩

/-! ## Verdicts -/

namespace Verdict

/-- The verdict on a key, by what it addresses. -/
theorem of_target (present : String → Bool) (key : String) (value : Json) :
    of present key value =
      match Document.target? key with
      | none => if (Document.splitKey? key).isSome then unknownField else withoutSuffix
      | some (identifier, field) =>
        if present identifier then
          match edit? field value with
          | some edit => applied identifier edit
          | none => rejected
        else stale identifier := by
  unfold of Document.target?
  cases Document.splitKey? key with
  | none => rfl
  | some parts =>
    obtain ⟨identifier, suffix⟩ := parts
    dsimp only
    cases Field.ofName suffix with
    | error r => rfl
    | ok field => rfl

/-- A key is unknown exactly if it addresses nothing, whatever its value is. -/
theorem isUnknown_of (present : String → Bool) (key : String) (value : Json) :
    (of present key value).isUnknown = (Document.target? key).isNone := by
  rw [of_target]
  cases Document.target? key with
  | none => cases (Document.splitKey? key).isSome <;> rfl
  | some target =>
    obtain ⟨identifier, field⟩ := target
    cases there : present identifier with
    | false => simp [there, isUnknown]
    | true => cases made : edit? field value <;> simp [there, made, isUnknown]

/-- A key sets a field exactly if it addresses one of an entry that is there and its value suits
that field. -/
theorem of_eq_applied_iff {present : String → Bool} {key identifier : String} {value : Json}
    {edit : Edit} :
    of present key value = applied identifier edit ↔
      present identifier = true ∧ Document.target? key = some (identifier, edit.field) ∧
        Suits edit.field value edit.value := by
  rw [of_target]
  cases Document.target? key with
  | none => cases (Document.splitKey? key).isSome <;> simp
  | some target =>
    obtain ⟨id, field⟩ := target
    simp only [Option.some.injEq, Prod.mk.injEq]
    by_cases there : present id = true
    · rw [if_pos there]
      constructor
      · intro h
        cases made : edit? field value with
        | none => simp [made] at h
        | some edit' =>
          simp only [made, applied.injEq] at h
          obtain ⟨rfl, rfl⟩ := h
          obtain ⟨rfl, suits⟩ := suits_of_edit? made
          exact ⟨there, ⟨rfl, rfl⟩, suits⟩
      · rintro ⟨_, ⟨rfl, rfl⟩, suits⟩
        obtain ⟨edit', made, of_field, of_value⟩ := suits.edit?_eq_some
        rw [made, Edit.eq_of_value of_field of_value]
    · rw [if_neg there]
      constructor
      · intro h
        cases h
      · rintro ⟨here, ⟨rfl, _⟩, _⟩
        exact absurd here there

end Verdict

end WidgetBindings
