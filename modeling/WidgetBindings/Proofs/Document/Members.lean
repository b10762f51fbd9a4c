import WidgetBindings.Proofs.Document.Forms
import WidgetBindings.Proofs.Json.Locality

/-!
# What the members of a document are read as

* `ofBytes_eq_ok_iff`: an object is a document if and only if it has each of its own members at most
  once, and what they hold is of the right kind;
* `IsObject.own_iff`: so an object is the document that its own members are by themselves;
* `foreign_members_never_matter`: all other members may come and go.
-/

namespace WidgetBindings.Document

open Json Json.Read

variable {depth : Nat} {unread rest bytes : List UInt8}

/-- The name of a member that is no field of a document. -/
def Foreign (name : String) : Prop := name ≠ "variables" ∧ name ≠ "values"

/-- The bytes are an object with these members. -/
inductive IsObject (ms : List Member) : List UInt8 → Prop
  | of {before inner after : List UInt8} (blank : Blank before) (writes : Json.Writes true ms inner)
      (space : Blank after) : IsObject ms (before ++ 123 :: (inner ++ after))

instance (name : String) : Decidable (Foreign name) :=
  inferInstanceAs (Decidable (name ≠ "variables" ∧ name ≠ "values"))

/-- The members that are fields of a document. -/
def own (ms : List Member) : List Member := ms.filter fun m => ¬ Foreign m.name

/-- The values of the members that have a name. -/
def valuesOf (name : String) (ms : List Member) : List (List UInt8) :=
  (ms.filter fun m => m.name = name).map (·.value)

/-! ## Reading a member -/

theorem local_readIdentifiers (depth : Nat) : Local (readIdentifiers depth) :=
  local_of_iff (fun unread => by rw [readIdentifiers, listOf, listOf, skipBlanks_skipBlanks])
    readIdentifiers_iff

theorem local_readValues (depth : Nat) : Local (readValues depth) :=
  local_of_iff (fun unread => by rw [readValues, mapOf, mapOf, skipBlanks_skipBlanks])
    mapOf_eq_ok_iff

theorem localStep_readMember (depth : Nat) : LocalStep (readMember depth) := by
  intro draft name
  by_cases isVariables : name = "variables"
  · have same : readMember depth draft name = once name draft.identifiers (readIdentifiers depth)
        fun v => { draft with identifiers := some v } := by
      funext unread
      rw [readMember, if_pos isVariables]
    rw [same]
    exact afterColon_once (local_readIdentifiers depth) ..
  · by_cases isValues : name = "values"
    · have same : readMember depth draft name = once name draft.values (readValues depth)
          fun v => { draft with values := some v } := by
        funext unread
        rw [readMember, if_neg isVariables, if_pos isValues]
      rw [same]
      exact afterColon_once (local_readValues depth) ..
    · have same : readMember depth draft name = foreign draft := by
        funext unread
        rw [readMember, if_neg isVariables, if_neg isValues]
      rw [same]
      exact afterColon_foreign draft

/-- A member by itself is a field if there was none before it and its value is read as one. -/
theorem once_alone {α σ : Type} {read : List UInt8 → Except Fault (α × List UInt8)}
    {name : String} {seen : Option α} {set : α → σ} {value : List UInt8} {next : σ} :
    once name seen read set (58 :: value) = .ok (next, rest) ↔
      seen = none ∧ ∃ a, read value = .ok (a, rest) ∧ next = set a := by
  constructor
  · intro h
    cases seen with
    | some a => cases h
    | none =>
      obtain ⟨start, a, sign, found, rfl⟩ := once_eq_ok h
      rw [colon_cons] at sign
      cases sign
      exact ⟨rfl, a, found, rfl⟩
  · rintro ⟨rfl, a, found, rfl⟩
    rw [once, Option.isSome_none, if_neg Bool.false_ne_true, colon_cons]
    exact inside_eq_ok_iff.2 (bind_eq_ok_iff.2 ⟨value, rfl, bind_eq_ok_iff.2 ⟨_, found, rfl⟩⟩)

theorem foreign_alone {σ : Type} {state next : σ} {value : List UInt8}
    (spells : Json.Spells .value value) :
    foreign state (58 :: value) = .ok (next, []) ↔ next = state := by
  have passed : Skip.value (value ++ []) = .ok [] := skip_value_of_spells spells ended_nil
  rw [List.append_nil] at passed
  have alone : foreign state (58 :: value) = .ok (state, []) := by
    rw [foreign, colon_cons]
    change inside (Skip.value value >>= _) = _
    rw [passed]
    rfl
  rw [alone]
  constructor
  · intro same
    cases same
    rfl
  · rintro rfl
    rfl

/-! ## Fields -/

/-- What is found of a field. Together with what has been seen before there is one value at most,
and it is read as what is found. -/
def Sole {α : Type} (read : List UInt8 → Except Fault (α × List UInt8)) (seen : Option α)
    (values : List (List UInt8)) (found : Option α) : Prop :=
  seen.toList.map (fun a => .ok (a, [])) ++ values.map read =
    found.toList.map fun a => .ok (a, [])

section

variable {α : Type} {read : List UInt8 → Except Fault (α × List UInt8)} {seen found : Option α}
  {value : List UInt8} {values others : List (List UInt8)}

theorem sole_nil : Sole read seen [] found ↔ seen = found := by
  cases seen <;> cases found <;> simp [Sole]

theorem sole_singleton {a : α} (h : read value = .ok (a, [])) :
    Sole read none [value] (some a) := by
  simp [Sole, h]

theorem sole_cons : Sole read seen (value :: values) found ↔
    seen = none ∧ ∃ a, read value = .ok (a, []) ∧ Sole read (some a) values found := by
  cases seen <;> cases found <;> simp [Sole]

theorem Sole.reads (h : Sole read none values found) (hv : value ∈ values) :
    ∃ a, read value = .ok (a, []) := by
  have one : read value ∈ values.map read := List.mem_map_of_mem hv
  rw [Sole, Option.toList_none, List.map_nil, List.nil_append] at h
  rw [h] at one
  obtain ⟨a, _, same⟩ := List.mem_map.1 one
  exact ⟨a, same.symm⟩

theorem Sole.perm (h : Sole read none values found) (perm : values.Perm others) :
    Sole read none others found := by
  have same := (perm.map read).symm
  rw [Sole, Option.toList_none, List.map_nil, List.nil_append] at h ⊢
  rw [h] at same
  cases found with
  | none => exact List.perm_nil.1 same
  | some a => exact List.perm_singleton.1 same

end

/-- What a document holds of such members: of each field one value at most. -/
structure Holds (depth : Nat) (draft : Draft) (ms : List Member) (final : Draft) : Prop where
  identifiers : Sole (readIdentifiers depth) draft.identifiers (valuesOf "variables" ms)
    final.identifiers
  values : Sole (readValues depth) draft.values (valuesOf "values" ms) final.values

theorem valuesOf_cons (name : String) (m : Member) (ms : List Member) :
    valuesOf name (m :: ms) =
      if m.name = name then m.value :: valuesOf name ms else valuesOf name ms := by
  by_cases same : m.name = name <;> simp [valuesOf, same]

section

variable {m : Member} {ms : List Member} {draft final : Draft}

theorem holds_nil : Holds depth draft [] final ↔ draft = final := by
  constructor
  · rintro ⟨identifiers, values⟩
    cases draft
    cases final
    cases sole_nil.1 identifiers
    cases sole_nil.1 values
    rfl
  · rintro rfl
    exact ⟨sole_nil.2 rfl, sole_nil.2 rfl⟩

theorem holds_cons_variables (named : m.name = "variables") :
    Holds depth draft (m :: ms) final ↔ draft.identifiers = none ∧
      ∃ a, readIdentifiers depth m.value = .ok (a, []) ∧
        Holds depth { draft with identifiers := some a } ms final := by
  have other : m.name ≠ "values" := by
    rw [named]
    decide
  constructor
  · rintro ⟨identifiers, values⟩
    rw [valuesOf_cons, if_pos named] at identifiers
    rw [valuesOf_cons, if_neg other] at values
    obtain ⟨unseen, a, read, identifiers⟩ := sole_cons.1 identifiers
    exact ⟨unseen, a, read, identifiers, values⟩
  · rintro ⟨unseen, a, read, identifiers, values⟩
    refine ⟨?_, ?_⟩
    · rw [valuesOf_cons, if_pos named]
      exact sole_cons.2 ⟨unseen, a, read, identifiers⟩
    · rw [valuesOf_cons, if_neg other]
      exact values

theorem holds_cons_values (named : m.name = "values") :
    Holds depth draft (m :: ms) final ↔ draft.values = none ∧
      ∃ a, readValues depth m.value = .ok (a, []) ∧
        Holds depth { draft with values := some a } ms final := by
  have other : m.name ≠ "variables" := by
    rw [named]
    decide
  constructor
  · rintro ⟨identifiers, values⟩
    rw [valuesOf_cons, if_neg other] at identifiers
    rw [valuesOf_cons, if_pos named] at values
    obtain ⟨unseen, a, read, values⟩ := sole_cons.1 values
    exact ⟨unseen, a, read, identifiers, values⟩
  · rintro ⟨unseen, a, read, identifiers, values⟩
    refine ⟨?_, ?_⟩
    · rw [valuesOf_cons, if_neg other]
      exact identifiers
    · rw [valuesOf_cons, if_pos named]
      exact sole_cons.2 ⟨unseen, a, read, values⟩

theorem holds_cons_foreign (foreign : Foreign m.name) :
    Holds depth draft (m :: ms) final ↔ Holds depth draft ms final := by
  have identifiers : valuesOf "variables" (m :: ms) = valuesOf "variables" ms := by
    rw [valuesOf_cons, if_neg foreign.1]
  have values : valuesOf "values" (m :: ms) = valuesOf "values" ms := by
    rw [valuesOf_cons, if_neg foreign.2]
  constructor
  · rintro ⟨first, second⟩
    exact ⟨identifiers ▸ first, values ▸ second⟩
  · rintro ⟨first, second⟩
    exact ⟨identifiers.symm ▸ first, values.symm ▸ second⟩

end

/-- Members are read one after the other, but it only matters which there are of each name. -/
theorem folds_iff {ms : List Member} (spells : ∀ m ∈ ms, Json.Spells .value m.value)
    {draft final : Draft} :
    Folds (readMember depth) draft ms final ↔ Holds depth draft ms final := by
  induction ms generalizing draft with
  | nil =>
    rw [holds_nil]
    constructor
    · intro h
      cases h
      rfl
    · rintro rfl
      exact .nil _
  | cons m ms ih =>
    obtain ⟨first, others⟩ := List.forall_mem_cons.1 spells
    rw [folds_cons_iff]
    simp only [ih others]
    by_cases isVariables : m.name = "variables"
    · simp only [readMember, if_pos isVariables, once_alone]
      rw [holds_cons_variables isVariables]
      constructor
      · rintro ⟨next, ⟨unseen, a, read, rfl⟩, holds⟩
        exact ⟨unseen, a, read, holds⟩
      · rintro ⟨unseen, a, read, holds⟩
        exact ⟨_, ⟨unseen, a, read, rfl⟩, holds⟩
    · by_cases isValues : m.name = "values"
      · simp only [readMember, if_neg isVariables, if_pos isValues, once_alone]
        rw [holds_cons_values isValues]
        constructor
        · rintro ⟨next, ⟨unseen, a, read, rfl⟩, holds⟩
          exact ⟨unseen, a, read, holds⟩
        · rintro ⟨unseen, a, read, holds⟩
          exact ⟨_, ⟨unseen, a, read, rfl⟩, holds⟩
      · simp only [readMember, if_neg isVariables, if_neg isValues, foreign_alone first,
          exists_eq_left]
        rw [holds_cons_foreign ⟨isVariables, isValues⟩]

/-! ## Documents -/

theorem read_eq_ok_iff {inner : List UInt8} (begins : skipBlanks unread = 123 :: inner)
    {document : Document} :
    read (depth + 1) unread = .ok (document, rest) ↔
      ∃ draft : Draft, Read.object (readMember depth) {} inner = .ok (draft, rest) ∧
        draft.finish = document := by
  rw [read, record, begins]
  change leaveObject (members (readMember depth) (inner.length + 1) true {} inner >>= _) = _ ↔ _
  constructor
  · intro h
    obtain ⟨between, found, closed⟩ := leaveObject_eq_ok h
    obtain ⟨⟨draft, _⟩, all, go⟩ := bind_eq_ok_iff.1 found
    cases go
    refine ⟨draft, ?_, rfl⟩
    rw [Read.object, all, leaveObject, closed]
    rfl
  · rintro ⟨draft, h, rfl⟩
    obtain ⟨between, all, closed⟩ := leaveObject_eq_ok h
    rw [all]
    change leaveObject (.ok (draft.finish, between)) = _
    rw [leaveObject, closed]
    rfl

theorem IsObject.skipBlanks_eq {ms : List Member} (h : IsObject ms bytes) :
    ∃ inner after, skipBlanks bytes = 123 :: (inner ++ after) ∧ Json.Writes true ms inner ∧
      skipBlanks after = [] := by
  cases h with
  | @of before inner after blank writes space =>
    refine ⟨inner, after, ?_, writes, List.dropWhile_eq_nil_iff.2 space⟩
    rw [skipBlanks_append blank, skipBlanks_cons rfl]

/-- An object is a document if and only if of each of its own members there is one at most, and its
value is of the right kind. -/
theorem ofBytes_eq_ok_iff {ms : List Member} (h : IsObject ms bytes) {document : Document} :
    ofBytes bytes = .ok document ↔
      ∃ draft : Draft, Holds (nestingLimit - 1) {} ms draft ∧ draft.finish = document := by
  obtain ⟨inner, after, begins, writes, blank⟩ := h.skipBlanks_eq
  rw [ofBytes, all_eq_ok_iff]
  simp only [nestingLimit, read_eq_ok_iff begins, object_eq_ok_iff (localStep_readMember _) writes,
    folds_iff writes.each]
  constructor
  · rintro ⟨behind, ⟨draft, ⟨holds, _⟩, same⟩, _⟩
    exact ⟨draft, holds, same⟩
  · rintro ⟨draft, holds, same⟩
    exact ⟨after, ⟨draft, ⟨holds, rfl⟩, same⟩, blank⟩

/-- What begins as an object and is a document consists of members. -/
theorem exists_isObject {document : Document} (object : (skipBlanks bytes).head? = some 123)
    (accepted : ofBytes bytes = .ok document) : ∃ ms, IsObject ms bytes := by
  obtain ⟨behind, found, blank⟩ := all_eq_ok_iff.1 accepted
  obtain ⟨inner, begins⟩ : ∃ inner, skipBlanks bytes = 123 :: inner := by
    cases h : skipBlanks bytes with
    | nil =>
      rw [h] at object
      cases object
    | cons b inner =>
      rw [h] at object
      cases object
      exact ⟨inner, rfl⟩
  obtain ⟨draft, read, _⟩ := (read_eq_ok_iff begins).1 found
  obtain ⟨ms, text, rfl, writes⟩ := exists_members (localStep_readMember _) read
  obtain ⟨before, same, space⟩ := exists_blanks bytes
  rw [same, begins]
  exact ⟨ms, .of space writes (List.dropWhile_eq_nil_iff.1 blank)⟩

/-! ## Members that do not matter -/

theorem valuesOf_own {name : String} (field : ¬ Foreign name) (ms : List Member) :
    valuesOf name (own ms) = valuesOf name ms := by
  have both : ∀ m : Member, (m.name = name ∧ ¬ Foreign m.name) ↔ m.name = name := by
    intro m
    constructor
    · exact fun h => h.1
    · intro same
      exact ⟨same, same ▸ field⟩
  simp only [valuesOf, own, List.filter_filter, ← Bool.decide_and, both]

theorem valuesOf_eq_nil {name : String} {ms : List Member} (h : ∀ m ∈ ms, m.name ≠ name) :
    valuesOf name ms = [] := by
  have none : ms.filter (fun m => m.name = name) = [] :=
    List.filter_eq_nil_iff.2 fun m hm => by simpa using h m hm
  rw [valuesOf, none, List.map_nil]

theorem not_foreign_variables : ¬ Foreign "variables" := fun h => h.1 rfl

theorem not_foreign_values : ¬ Foreign "values" := fun h => h.2 rfl

theorem valuesOf_perm {name : String} {ms others : List Member} (field : ¬ Foreign name)
    (perm : (own ms).Perm others) : (valuesOf name others).Perm (valuesOf name ms) := by
  rw [← valuesOf_own field ms]
  exact (perm.symm.filter _).map _

/-- Members with the same fields, in any order and with others among them, hold the same. -/
theorem Holds.perm {ms others : List Member} {final : Draft} (h : Holds depth {} ms final)
    (perm : (own others).Perm (own ms)) : Holds depth {} others final := by
  have same {name : String} (field : ¬ Foreign name) :
      (valuesOf name ms).Perm (valuesOf name others) := by
    rw [← valuesOf_own field ms]
    exact valuesOf_perm field perm
  exact ⟨h.identifiers.perm (same not_foreign_variables), h.values.perm (same not_foreign_values)⟩

section

variable {α : Type} {read : List UInt8 → Except Fault (α × List UInt8)} {found : Option α}
  {name other : String} {ms others : List Member} {value : List UInt8}

theorem Sole.eq_none (h : Sole read none (valuesOf name ms) found)
    (missing : ∀ m ∈ ms, m.name ≠ name) : found = none := by
  rw [valuesOf_eq_nil missing] at h
  exact (sole_nil.1 h).symm

/-- Of a field that has been added there is that one value. -/
theorem sole_added {a : α} (field : ¬ Foreign name) (missing : ∀ m ∈ ms, m.name ≠ name)
    (reads : read value = .ok (a, [])) (perm : (own others).Perm (⟨name, value⟩ :: own ms)) :
    Sole read none (valuesOf name others) (some a) := by
  have values := valuesOf_perm field perm
  rw [valuesOf_cons, if_pos rfl, valuesOf_own field, valuesOf_eq_nil missing] at values
  exact (sole_singleton reads).perm values

/-- Of any other field there is what there was before. -/
theorem Sole.added (h : Sole read none (valuesOf name ms) found) (field : ¬ Foreign name)
    (apart : other ≠ name) (perm : (own others).Perm (⟨other, value⟩ :: own ms)) :
    Sole read none (valuesOf name others) found := by
  have values := valuesOf_perm field perm
  rw [valuesOf_cons, if_neg apart, valuesOf_own field] at values
  exact h.perm values

end

theorem read_empty_list {blanks : List UInt8} (blank : Blank blanks) (depth : Nat) :
    readIdentifiers (depth + 1) (91 :: (blanks ++ [93])) = .ok ([], []) := by
  have last : nextElement true (blanks ++ [93]) = .ok (false, [93]) := by
    rw [nextElement, skipBlanks_append blank]
    rfl
  exact readIdentifiers_iff.2 (value_eq_array_iff.2
    ⟨depth, blanks ++ [93], [93], rfl, skipBlanks_cons rfl _, .stop last, rfl⟩)

theorem read_empty_object {blanks : List UInt8} (blank : Blank blanks) (depth : Nat) :
    readValues (depth + 1) (123 :: (blanks ++ [125])) = .ok ([], []) := by
  have step := localStep_keyed (local_value depth)
    fun (fields : List (String × Json)) key v => setMember key v fields
  have all := (object_eq_ok_iff step (Json.Writes.blanks blank (.close true)) []).2 ⟨.nil [], rfl⟩
  rw [List.append_nil] at all
  rw [readValues, mapOf, skipBlanks_cons rfl]
  exact all

/-- The bytes of members without blanks, from the beginning of an object or after a member. -/
def memberBytes : (first : Bool) → List Member → List UInt8
  | _, [] => [125]
  | first, m :: ms => (if first then [] else [44]) ++
      (Text.toBytes (stringText m.name) ++ 58 :: m.value ++ memberBytes false ms)

def objectBytes (ms : List Member) : List UInt8 := 123 :: memberBytes true ms

theorem writes_memberBytes {ms : List Member} (h : ∀ m ∈ ms, Json.Spells .value m.value)
    (first : Bool) : Json.Writes first ms (memberBytes first ms) := by
  induction ms generalizing first with
  | nil => exact .close first
  | cons m ms ih =>
    obtain ⟨value, others⟩ := List.forall_mem_cons.1 h
    have none : Blank [] := fun _ h => by cases h
    have written : m.Written (Text.toBytes (stringText m.name) ++ 58 :: m.value) := by
      rw [toBytes_stringText]
      refine .of (fun rest => ?_) none none value
      rw [List.append_assoc]
      exact string_printed m.name rest
    cases first with
    | true =>
      rw [memberBytes, if_pos rfl, List.nil_append]
      exact .first written (ih others false)
    | false =>
      rw [memberBytes, if_neg Bool.false_ne_true]
      exact .next none written (ih others false)

/-- Any members whose values are spelled as such are the members of an object. -/
theorem isObject_objectBytes {ms : List Member} (h : ∀ m ∈ ms, Json.Spells .value m.value) :
    IsObject ms (objectBytes ms) := by
  have none : Blank [] := fun _ h => by cases h
  have isObject := IsObject.of none (writes_memberBytes h true) none
  rw [List.nil_append, List.append_nil] at isObject
  exact isObject

theorem IsObject.each (h : IsObject ms bytes) : ∀ m ∈ ms, Json.Spells .value m.value := by
  obtain ⟨_, _, _, writes, _⟩ := h.skipBlanks_eq
  exact writes.each

theorem own_own (ms : List Member) : own (own ms) = own ms := by
  simp only [own, List.filter_filter, Bool.and_self]

/-- An object is the document that its own members are by themselves. -/
theorem IsObject.own_iff (h : IsObject ms bytes) {document : Document} :
    ofBytes bytes = .ok document ↔ ofBytes (objectBytes (own ms)) = .ok document := by
  have alone : IsObject (own ms) (objectBytes (own ms)) :=
    isObject_objectBytes fun m hm => h.each m (List.mem_of_mem_filter hm)
  have fields : (own ms).Perm (own (own ms)) := .of_eq (own_own ms).symm
  rw [ofBytes_eq_ok_iff h, ofBytes_eq_ok_iff alone]
  constructor
  · rintro ⟨draft, holds, same⟩
    exact ⟨draft, holds.perm fields.symm, same⟩
  · rintro ⟨draft, holds, same⟩
    exact ⟨draft, holds.perm fields, same⟩

theorem isObject_of_skip {ms : List Member}
    (passed : ∀ m ∈ ms, (Skip.value m.value).toOption = some []) :
    IsObject ms (objectBytes ms) := by
  apply isObject_objectBytes
  intro m hm
  obtain ⟨text, same, spells⟩ := skip_value_eq_ok (eq_ok_of_toOption (passed m hm))
  rw [same, List.append_nil]
  exact spells

/-- **Members that are no fields never matter.** The bytes of an object that is a document consist
of members. Any other object that has the same fields, in any order and with any other members
anywhere, is the same document; so is one that has an empty list or an empty object for a field that
the document has not. -/
theorem foreign_members_never_matter {document : Document}
    (object : (skipBlanks bytes).head? = some 123) (accepted : ofBytes bytes = .ok document) :
    (∃ ms, IsObject ms bytes) ∧ ∀ ms, IsObject ms bytes →
      (∀ others bytes', IsObject others bytes' → (own others).Perm (own ms) →
        ofBytes bytes' = .ok document) ∧
      ((∀ m ∈ ms, m.name ≠ "variables") → document.identifiers = [] ∧
        ∀ blanks others bytes', Blank blanks → IsObject others bytes' →
          (own others).Perm (⟨"variables", 91 :: (blanks ++ [93])⟩ :: own ms) →
            ofBytes bytes' = .ok document) ∧
      ((∀ m ∈ ms, m.name ≠ "values") → document.values = [] ∧
        ∀ blanks others bytes', Blank blanks → IsObject others bytes' →
          (own others).Perm (⟨"values", 123 :: (blanks ++ [125])⟩ :: own ms) →
            ofBytes bytes' = .ok document) := by
  refine ⟨exists_isObject object accepted, fun ms isObject => ?_⟩
  obtain ⟨draft, holds, rfl⟩ := (ofBytes_eq_ok_iff isObject).1 accepted
  refine ⟨fun others bytes' isObject' perm => ?_, fun missing => ?_, fun missing => ?_⟩
  · exact (ofBytes_eq_ok_iff isObject').2 ⟨draft, holds.perm perm, rfl⟩
  · have none : draft.identifiers = none := holds.identifiers.eq_none missing
    refine ⟨by rw [Draft.finish, none]; rfl, fun blanks others bytes' blank isObject' perm => ?_⟩
    have empty : Holds (nestingLimit - 1) {} others { draft with identifiers := some [] } :=
      ⟨sole_added not_foreign_variables missing (read_empty_list blank 125) perm,
        holds.values.added not_foreign_values (by decide) perm⟩
    refine (ofBytes_eq_ok_iff isObject').2 ⟨_, empty, ?_⟩
    rw [Draft.finish, Draft.finish, none]
    rfl
  · have none : draft.values = none := holds.values.eq_none missing
    refine ⟨by rw [Draft.finish, none]; rfl, fun blanks others bytes' blank isObject' perm => ?_⟩
    have empty : Holds (nestingLimit - 1) {} others { draft with values := some [] } :=
      ⟨holds.identifiers.added not_foreign_variables (by decide) perm,
        sole_added not_foreign_values missing (read_empty_object blank 125) perm⟩
    refine (ofBytes_eq_ok_iff isObject').2 ⟨_, empty, ?_⟩
    rw [Draft.finish, Draft.finish, none]
    rfl

/-- Only a list of identifiers. -/
def lone : List Member := [⟨"variables", Text.toBytes "[\"a\"]"⟩]

/-- The same list between a member in which there are names of fields and an escape that stands for
no character. -/
def crowded : List Member := [
  ⟨"generator", Text.toBytes "[\x7b\"variables\":1e999,\"values\":[[]]\x7d]"⟩,
  ⟨"variables", Text.toBytes "[\"a\"]"⟩,
  ⟨"note", Text.toBytes "\"\\ud800\""⟩]

theorem foreign_members_never_matter_crowded :
    (skipBlanks (objectBytes lone)).head? = some 123 ∧
    ofBytes (objectBytes lone) = .ok ⟨["a"], []⟩ ∧
    ofBytes (objectBytes crowded) = .ok ⟨["a"], []⟩ := by
  have object : (skipBlanks (objectBytes lone)).head? = some 123 := by decide +kernel
  have accepted : ofBytes (objectBytes lone) = .ok ⟨["a"], []⟩ :=
    eq_ok_of_toOption (by decide +kernel)
  have isLone : IsObject lone (objectBytes lone) := isObject_of_skip (by decide +kernel)
  have isCrowded : IsObject crowded (objectBytes crowded) := isObject_of_skip (by decide +kernel)
  have fields : own crowded = own lone := rfl
  obtain ⟨_, same⟩ := foreign_members_never_matter object accepted
  refine ⟨object, accepted, (same lone isLone).1 crowded _ isCrowded ?_⟩
  rw [fields]

end WidgetBindings.Document
