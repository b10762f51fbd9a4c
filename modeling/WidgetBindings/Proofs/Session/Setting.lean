import WidgetBindings.Proofs.Edit.Words
import WidgetBindings.Proofs.Overlay.Accounting
import WidgetBindings.Proofs.Session.Failure
import WidgetBindings.Proofs.Session.Reloading

/-!
# Setting a field in three ways

A field can be set by a key of a document, by a caller who has a flat value, and by the words of an
operator.

* `Document.overlaid_of_suits`, `Document.overlaid_of_unsuited`: what a document with one key does;
* `agree_of_suits`, `refused_of_unsuited`: what becomes of a value that suits the field and of one
  that does not, whichever way it comes;
* `three_ways_agree`: the three ways come to the same.
-/

namespace WidgetBindings

/-! ## A document with one key -/

namespace Document

variable {session : Session} {id key : String} {field : Field} {value : Json}

/-- What the operator is told of the identifiers that a document lists. -/
def goneNotes (store : Store) (listed : List String) : List String :=
  (listed.filter fun id => !store.contains id).eraseDups.map staleNote

theorem edits_single (store : Store) (listed : List String) (member : String × Json) :
    (⟨listed, [member]⟩ : Document).edits store =
      (Verdict.of store.contains member.1 member.2).edits?.toList := by
  rw [edits_eq]
  cases made : (Verdict.of store.contains member.1 member.2).edits? <;> simp [made]

theorem notes_single {store : Store} (listed : List String) {member : String × Json}
    (kept : lost? store member = none) :
    (⟨listed, [member]⟩ : Document).notes store =
      goneNotes store listed ++
        if isRejected store member then [unsupportedNote member] else [] := by
  rw [notes_eq]
  simp [keyNotes, kept, goneNotes]

/-- What a document does whose only key is not for an identifier that is gone. -/
theorem overlaid_single (listed : List String) {member : String × Json}
    (kept : lost? session.store member = none) :
    session.overlaid ⟨listed, [member]⟩ = { session with
      store := session.store.editAll
        (Verdict.of session.store.contains member.1 member.2).edits?.toList
      notes := session.notes.append (goneNotes session.store listed ++
        if isRejected session.store member then [unsupportedNote member] else []) } := by
  rw [Session.overlaid, overlay, edits_single, notes_single listed kept]

section
variable (there : session.store.contains id = true) (target : target? key = some (id, field))
include there target

theorem lost?_of_there (value : Json) : lost? session.store (key, value) = none := by
  simp [lost?, target, there]

/-- A key with a value that suits its field sets the field, and there is nothing to tell. -/
theorem overlaid_of_suits {edit : Edit} {changed : Store}
    (made : Verdict.edit? field value = some edit)
    (edited : session.store.edit id edit = .ok changed) (listed : List String) :
    session.overlaid ⟨listed, [(key, value)]⟩ = { session with
      store := changed
      notes := session.notes.append (goneNotes session.store listed) } := by
  have verdict : Verdict.of session.store.contains key value = .applied id edit := by
    rw [Verdict.of_target, target]
    simp [there, made]
  have accepted : isRejected session.store (key, value) = false := by
    simp [isRejected, addresses, target, made]
  have once : session.store.editAll [(id, edit)] = changed := Store.editAll_cons_of_ok edited []
  rw [overlaid_single listed (lost?_of_there there target value), verdict, accepted]
  simp [Verdict.edits?, once]

/-- A key with a value that does not suit its field changes nothing, and the operator is told. -/
theorem overlaid_of_unsuited (refused : Verdict.edit? field value = none)
    (listed : List String) :
    session.overlaid ⟨listed, [(key, value)]⟩ = { session with
      notes := session.notes.append
        (goneNotes session.store listed ++ [unsupportedNote (key, value)]) } := by
  have verdict : Verdict.of session.store.contains key value = .rejected := by
    rw [Verdict.of_target, target]
    simp [there, refused]
  have rejected : isRejected session.store (key, value) = true := by
    simp [isRejected, addresses, target, refused, there]
  rw [overlaid_single listed (lost?_of_there there target value), verdict, rejected]
  simp [Verdict.edits?, Store.editAll]

end

end Document

/-! ## The three ways -/

/-- The second store is the first one with a field set to a flat value by an edit. It has the same
identifiers, and all other fields hold what they held. -/
structure Store.SetTo (store : Store) (id : String) (field : Field) (value : FieldValue)
    (changed : Store) : Prop where
  edited : ∃ edit : Edit, edit.field = field ∧ edit.value = value ∧
    store.edit id edit = .ok changed
  identifiers : changed.identifiers = store.identifiers
  values : ∀ e ∈ store.toList, ∃ e', changed.get? e.identifier = some e' ∧
    ∀ f, e'.value f = if e.identifier = id ∧ f = field then value else e.value f

theorem Store.setTo_of_edit {store changed : Store} {id : String} {edit : Edit}
    (made : store.edit id edit = .ok changed) :
    store.SetTo id edit.field edit.value changed where
  edited := ⟨edit, rfl, rfl, made⟩
  identifiers := identifiers_edit made
  values _ he := value_edit made he

namespace Session

open Document (goneNotes)
open Program (report)

variable {session : Session} {id name text : String} {field : Field} {edit : Edit}

/-- Sets one field of one entry to a flat value. -/
def applyValue (session : Session) (identifier : String) (field : Field) (value : FieldValue) :
    Program (Except SessionError Session) :=
  match Edit.ofValue field value with
  | .error refusal => pure (.error (.edit refusal))
  | .ok edit => session.apply identifier edit

/-- Reports that a field has been set, and comes to a session. -/
def updated (identifier : String) (field : Field) (session : Session) :
    Program (Except SessionError Session) := do
  report (.fieldUpdated identifier field)
  pure (.ok session)

theorem apply_of_edited {store : Store} (edited : session.store.edit id edit = .ok store) :
    session.apply id edit = updated id edit.field { session with store } := by
  have made : session.edited id edit = .ok { session with store } := by
    rw [Session.edited, edited]
    rfl
  rw [apply, made]
  rfl

theorem edit_of_parsed (known : Field.ofName name = .ok field)
    (parsed : Edit.parse field text = .ok edit) :
    session.edit id name text = session.apply id edit := by
  have asked : parseEdit name text = .ok edit := by
    rw [parseEdit, known]
    exact parsed
  rw [Session.edit, asked]

theorem edit_of_unparsed {refusal : Refusal} (known : Field.ofName name = .ok field)
    (failed : Edit.parse field text = .error refusal) :
    session.edit id name text = pure (.error (.edit refusal)) := by
  have asked : parseEdit name text = .error refusal := by
    rw [parseEdit, known]
    exact failed
  rw [Session.edit, asked]

theorem applyValue_of_ok {value : FieldValue} (made : Edit.ofValue field value = .ok edit) :
    session.applyValue id field value = session.apply id edit := by
  rw [applyValue, made]

theorem applyValue_of_error {value : FieldValue} {refusal : Refusal}
    (refused : Edit.ofValue field value = .error refusal) :
    session.applyValue id field value = pure (.error (.edit refusal)) := by
  rw [applyValue, refused]

/-- An operator's text and a flat value that make the same edit, or are refused for the same reason,
come to the same. -/
theorem edit_eq_applyValue {value : FieldValue} (known : Field.ofName name = .ok field)
    (same : Edit.parse field text = Edit.ofValue field value) :
    session.edit id name text = session.applyValue id field value := by
  cases made : Edit.ofValue field value with
  | ok edit => rw [applyValue_of_ok made, edit_of_parsed known (same.trans made)]
  | error refusal => rw [applyValue_of_error made, edit_of_unparsed known (same.trans made)]

section
variable (there : id ∈ session.store.identifiers)
include there

/-- A value that suits a field makes an edit, and the edit is made to the entry. -/
theorem setTo_of_suits {value : FieldValue} (suits : Suits field value.toJson value) :
    ∃ edit store, Edit.ofValue field value = .ok edit ∧ session.store.edit id edit = .ok store ∧
      session.store.SetTo id field value store ∧
      session.applyValue id field value = updated id field { session with store } := by
  obtain ⟨edit, _, rfl, rfl⟩ := suits.edit?_eq_some
  have made := Edit.ofValue_eq_ok_iff.2 ⟨suits, rfl, rfl⟩
  cases edited : session.store.edit id edit with
  | error refusal => exact absurd there (Store.edit_eq_error_iff.1 edited).1
  | ok store =>
    refine ⟨edit, store, made, edited, Store.setTo_of_edit edited, ?_⟩
    rw [applyValue_of_ok made, apply_of_edited edited]

/-- With a value that suits the field, a key of a document, a caller and an operator make the same
edit. -/
theorem agree_of_suits {key : String} (target : Document.target? key = some (id, field))
    {value : FieldValue} (suits : Suits field value.toJson value) (listed : List String) :
    ∃ store, session.store.SetTo id field value store ∧
      session.overlaid ⟨listed, [(key, value.toJson)]⟩ =
        { session with store, notes := session.notes.append (goneNotes session.store listed) } ∧
      session.applyValue id field value = updated id field { session with store } ∧
      ∀ other, Field.ofName other = .ok field →
        session.edit id other value.word = updated id field { session with store } := by
  have present := (session.store.contains_iff id).2 there
  obtain ⟨edit, store, made, edited, set, applied⟩ := setTo_of_suits there suits
  have from_document : Verdict.edit? field value.toJson = some edit := by
    rw [Document.edit?_toJson, made]
    rfl
  refine ⟨store, set, ?_, applied, fun other known => ?_⟩
  · exact Document.overlaid_of_suits present target from_document edited listed
  · rw [edit_of_parsed known (Edit.parse_word made), ← applyValue_of_ok made, applied]

/-- With a value that does not suit the field, a key of a document changes nothing, nor does a
caller. -/
theorem refused_of_unsuited {key : String} (target : Document.target? key = some (id, field))
    {value : FieldValue} (unsuited : ¬ Suits field value.toJson value) (listed : List String) :
    session.overlaid ⟨listed, [(key, value.toJson)]⟩ = { session with
      notes := session.notes.append
        (goneNotes session.store listed ++ [unsupportedNote (key, value.toJson)]) } ∧
      ∃ refusal, session.applyValue id field value = pure (.error (.edit refusal)) := by
  have present := (session.store.contains_iff id).2 there
  obtain ⟨refusal, refused⟩ := Edit.ofValue_of_unsuited unsuited
  have from_document : Verdict.edit? field value.toJson = none := by
    rw [Document.edit?_toJson, refused]
    rfl
  exact ⟨Document.overlaid_of_unsuited present target from_document listed,
    refusal, applyValue_of_error refused⟩

/-- A word that spells a flag sets it, and no other way takes the word. -/
theorem edit_of_spells (isFlag : field.isFlag = true) (known : Field.ofName name = .ok field)
    {flag : Bool} (spells : Spells text flag) :
    ¬ Suits field (.string text) (.text text) ∧
      ∃ store, session.store.SetTo id field (.flag flag) store ∧
        session.edit id name text = updated id field { session with store } := by
  constructor
  · intro suits
    cases suits <;> cases isFlag
  · have suits : Suits field (FieldValue.flag flag).toJson (.flag flag) := .flag isFlag flag
    obtain ⟨_, store, _, _, set, applied⟩ := setTo_of_suits there suits
    have word := parseFlag?_eq_some_iff.2 spells
    exact ⟨store, set, (edit_eq_applyValue known (Edit.parse_of_word isFlag word)).trans applied⟩

end

/-- **Three ways to set a field agree.** The entry of an identifier that is not empty is there. A
field of it can be set by a document whose only key is made of the identifier and a name of the
field without underscores, and by a caller, to the same flat value. If the value suits the field,
both make the same edit, and so do an operator's words for it, whichever name of the field the
operator uses. If not, both leave the store alone, and of the document the operator is told so in
one note. For a field that is a text an operator's words are such a value, and are refused if it is.
For a flag there are more words for an operator, which set it as the flag itself does, and which the
other two ways refuse; all other words are refused. -/
theorem three_ways_agree (session : Session) {id : String}
    (there : id ∈ session.store.identifiers) (named : id ≠ "") (field : Field) :
    (∀ name listed value, Field.ofName name = .ok field → '_' ∉ name.toList →
      let key := id ++ "_" ++ name
      let told := goneNotes session.store listed
      (Suits field value.toJson value ∧ ∃ store, session.store.SetTo id field value store ∧
        session.overlaid ⟨listed, [(key, value.toJson)]⟩ =
          { session with store, notes := session.notes.append told } ∧
        session.applyValue id field value = updated id field { session with store } ∧
        ∀ other, Field.ofName other = .ok field →
          session.edit id other value.word = updated id field { session with store }) ∨
      (¬ Suits field value.toJson value ∧
        session.overlaid ⟨listed, [(key, value.toJson)]⟩ =
          { session with
            notes := session.notes.append (told ++ [unsupportedNote (key, value.toJson)]) } ∧
        ∃ refusal, session.applyValue id field value = pure (.error (.edit refusal)))) ∧
    ∀ name text, Field.ofName name = .ok field →
      (field.isFlag = false →
        session.edit id name text = session.applyValue id field (.text text)) ∧
      (field.isFlag = true → ∀ flag, Spells text flag →
        ¬ Suits field (.string text) (.text text) ∧
        ∃ store, session.store.SetTo id field (.flag flag) store ∧
          session.edit id name text = updated id field { session with store }) ∧
      (field.isFlag = true → (∀ flag, ¬ Spells text flag) →
        ∃ refusal, session.edit id name text = pure (.error (.edit refusal))) := by
  constructor
  · intro name listed value known plain key told
    have target : Document.target? key = some (id, field) :=
      Document.target?_eq_some_iff.2 ⟨named, name, (Field.ofName_eq_ok_iff plain).1 known, rfl⟩
    by_cases suits : Suits field value.toJson value
    · exact .inl ⟨suits, agree_of_suits there target suits listed⟩
    · exact .inr ⟨suits, refused_of_unsuited there target suits listed⟩
  · intro name text known
    refine ⟨fun isText => ?_, fun isFlag flag => ?_, fun isFlag silent => ?_⟩
    · exact edit_eq_applyValue known (Edit.parse_of_text isText text)
    · exact edit_of_spells there isFlag known
    · have noWord : parseFlag? text = none := by
        rw [Option.eq_none_iff_forall_ne_some]
        intro flag word
        exact silent flag (parseFlag?_eq_some_iff.1 word)
      exact ⟨_, edit_of_unparsed known (Edit.parse_eq_error_iff.2 (.flag isFlag noWord))⟩

/-- In a session whose identifiers end like keys, a word for a flag is told of when it comes from a
document, and taken when it comes from an operator. -/
theorem three_ways_agree_nested :
    "ui_a_name" ∈ nestedSession.store.identifiers ∧ "ui_a_name" ≠ "" ∧
    (nestedSession.overlaid
      ⟨["ui_gone"], [("ui_a_name" ++ "_" ++ "con", .string " YES")]⟩).notes.lines = [
        "ui_gone not in current code, skipping",
        "ui_a_name_con has unsupported value \" YES\", skipping"] ∧
    ∃ store, nestedSession.store.SetTo "ui_a_name" .consume (.flag true) store ∧
      nestedSession.edit "ui_a_name" "consume" " YES" =
        updated "ui_a_name" .consume { nestedSession with store } := by
  have there : "ui_a_name" ∈ nestedSession.store.identifiers := by decide +kernel
  have named : "ui_a_name" ≠ "" := by decide
  have spells : Spells " YES" true := parseFlag?_eq_some_iff.1 (by decide)
  obtain ⟨same, words⟩ := three_ways_agree nestedSession there named .consume
  obtain ⟨unsuited, set⟩ := (words "consume" " YES" rfl).2.1 rfl true spells
  obtain ⟨suits, _⟩ | ⟨_, overlaid, _⟩ :=
    same "con" ["ui_gone"] (.text " YES") rfl (by decide)
  · exact absurd suits unsuited
  · exact ⟨there, named, (congrArg (·.notes.lines) overlaid).trans (by decide +kernel), set⟩

end Session

end WidgetBindings
