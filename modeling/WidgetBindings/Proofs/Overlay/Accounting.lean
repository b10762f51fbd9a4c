import WidgetBindings.Proofs.FirstOccurrence
import WidgetBindings.Proofs.Overlay.Addressing
import WidgetBindings.Proofs.Overlay.Survival
import WidgetBindings.Session

/-!
# Nothing in a document is lost silently or reported twice

Every key of a document is accounted for once: it sets a field, or is rejected, or is for an
identifier that is gone, or is unknown. What the operator is told follows from that.

* `outcome`, `countP_outcomes`: a key has one of four outcomes, and only one;
* `staleIdentifiers_once`, `rejected_once`: leaving out repeated remarks keeps each identifier at
  its first place, and every rejected key;
* `once_append_stale`, `notes_keys`: which notes come first, and which come with each key;
* `load_accounts`: all of it for one load.
-/

namespace WidgetBindings

def staleNote (identifier : String) : String := s!"{identifier} not in current code, skipping"

def unsupportedNote (member : String × Json) : String :=
  s!"{member.1} has unsupported value {member.2.compact}, skipping"

/-! ## Remarks -/

namespace Remark

/-- The member of a document that a remark rejects. -/
def rejected? : Remark → Option (String × Json)
  | stale _ => none
  | unsupported key value => some (key, value)

theorem rejectedKey?_eq (r : Remark) : r.rejectedKey? = r.rejected?.map (·.1) := by
  cases r <;> rfl

/-- Only membership counts in what was remarked on before. -/
theorem once_congr {seen seen' : List String} (same : ∀ id, id ∈ seen ↔ id ∈ seen')
    (rs : List Remark) : once seen rs = once seen' rs := by
  induction rs generalizing seen seen' with
  | nil => rfl
  | cons r rs ih =>
    cases r with
    | unsupported key value => rw [once, once, ih same]
    | stale id =>
      have extended (other : String) : other ∈ id :: seen ↔ other ∈ id :: seen' := by
        simp [same]
      simp only [once, same, ih same, ih extended]

/-- Each identifier is remarked on where it comes up first. -/
theorem staleIdentifiers_once (seen : List String) (rs : List Remark) :
    (once seen rs).filterMap staleIdentifier? =
      ((rs.filterMap staleIdentifier?).filter (· ∉ seen)).eraseDups := by
  induction rs generalizing seen with
  | nil => rfl
  | cons r rs ih =>
    cases r with
    | unsupported key value =>
      simpa only [once, List.filterMap_cons, staleIdentifier?] using ih seen
    | stale id =>
      by_cases known : id ∈ seen
      · simpa [once, List.filterMap_cons, staleIdentifier?, known] using ih seen
      · rw [once, if_neg known, List.filterMap_cons, List.filterMap_cons]
        simp only [staleIdentifier?]
        rw [ih, List.filter_cons_of_pos (by simpa using known), List.eraseDups_cons,
          List.filter_filter]
        congr 3
        funext other
        by_cases h : other = id <;> simp [h]

/-- No rejected key is left out. -/
theorem rejected_once (seen : List String) (rs : List Remark) :
    (once seen rs).filterMap rejected? = rs.filterMap rejected? := by
  induction rs generalizing seen with
  | nil => rfl
  | cons r rs ih =>
    cases r with
    | unsupported key value => simp only [once, List.filterMap_cons, rejected?, ih]
    | stale id =>
      by_cases known : id ∈ seen <;> simp [once, List.filterMap_cons, rejected?, known, ih]

/-- Whether an identifier is remarked on here or was before, it is not remarked on again. -/
theorem once_cons_stale (id : String) (seen : List String) (rs : List Remark) :
    once seen (stale id :: rs) =
      (if id ∈ seen then [] else [stale id]) ++ once (id :: seen) rs := by
  by_cases known : id ∈ seen
  · have same (other : String) : other ∈ seen ↔ other ∈ id :: seen := by
      by_cases h : other = id <;> simp [h, known]
    simp [once, known, once_congr same]
  · simp [once, known]

/-- Identifiers that come first are remarked on first, and count as remarked on for the rest. -/
theorem once_append_stale (ids seen : List String) (rs : List Remark) :
    once seen (ids.map stale ++ rs) =
      (ids.filter (· ∉ seen)).eraseDups.map stale ++ once (ids ++ seen) rs := by
  induction ids generalizing seen with
  | nil => rfl
  | cons id ids ih =>
    have same (other : String) : other ∈ ids ++ id :: seen ↔ other ∈ id :: ids ++ seen := by
      simp only [List.cons_append, List.mem_append, List.mem_cons]
      exact or_left_comm
    rw [List.map_cons, List.cons_append, once_cons_stale, ih, once_congr same]
    by_cases known : id ∈ seen
    · have new : ids.filter (· ∉ id :: seen) = ids.filter (· ∉ seen) := by
        refine List.filter_congr fun other _ => ?_
        by_cases h : other = id <;> simp [h, known]
      rw [if_pos known, List.filter_cons_of_neg (by simpa using known), new, List.nil_append]
    · have new : ids.filter (· ∉ id :: seen) =
          ids.filter fun other => !other == id && decide (other ∉ seen) := by
        refine List.filter_congr fun other _ => ?_
        by_cases h : other = id <;> simp [h]
      rw [if_neg known, List.filter_cons_of_pos (by simpa using known), List.eraseDups_cons,
        List.filter_filter, ← new]
      rfl

/-- The notes are one for each identifier that is remarked on, and one for each rejected key. -/
theorem notes_perm (rs : List Remark) :
    (rs.map note).Perm
      ((rs.filterMap staleIdentifier?).map staleNote ++
        (rs.filterMap rejected?).map unsupportedNote) := by
  induction rs with
  | nil => exact .nil
  | cons r rs ih =>
    cases r with
    | stale id => exact ih.cons _
    | unsupported key value => exact (ih.cons _).trans List.perm_middle.symm

end Remark

/-! ## Keys -/

namespace Document

variable (store : Store)

/-- The identifier that a key addresses although no entry has it. -/
def lost? (member : String × Json) : Option String :=
  match target? member.1 with
  | some (identifier, _) => if store.contains identifier then none else some identifier
  | none => none

/-- Whether a key addresses a field of an entry that is there, for which `suited` holds. -/
def addresses (suited : Field → Bool) (member : String × Json) : Bool :=
  match target? member.1 with
  | some (identifier, field) => store.contains identifier && suited field
  | none => false

/-- Whether a key sets a field of an entry. -/
def isApplied (member : String × Json) : Bool :=
  addresses store (fun field => (Verdict.edit? field member.2).isSome) member

/-- Whether a key addresses a field of an entry with a value that does not suit the field. -/
def isRejected (member : String × Json) : Bool :=
  addresses store (fun field => (Verdict.edit? field member.2).isNone) member

/-- The notes that come with a key, when `told` are the identifiers on which there were notes
before. -/
def keyNotes (told : List String) (member : String × Json) : List String :=
  match lost? store member with
  | some identifier => if identifier ∈ told then [] else [staleNote identifier]
  | none => if isRejected store member then [unsupportedNote member] else []

/-- The remark that a key calls for. -/
def remarkOn? (member : String × Json) : Option Remark :=
  match lost? store member with
  | some identifier => some (.stale identifier)
  | none => if isRejected store member then some (.unsupported member.1 member.2) else none

/-- All that can become of a key. -/
inductive Outcome (member : String × Json) : Prop
  | unknown (nothing : target? member.1 = none)
  | lost (identifier : String) (field : Field)
      (target : target? member.1 = some (identifier, field))
      (gone : store.contains identifier = false)
  | applied (identifier : String) (field : Field) (edit : Edit)
      (target : target? member.1 = some (identifier, field))
      (there : store.contains identifier = true)
      (made : Verdict.edit? field member.2 = some edit)
  | rejected (identifier : String) (field : Field)
      (target : target? member.1 = some (identifier, field))
      (there : store.contains identifier = true)
      (refused : Verdict.edit? field member.2 = none)

theorem outcome (member : String × Json) : Outcome store member := by
  cases target : target? member.1 with
  | none => exact .unknown target
  | some t =>
    obtain ⟨identifier, field⟩ := t
    cases there : store.contains identifier with
    | false => exact .lost identifier field target there
    | true =>
      cases made : Verdict.edit? field member.2 with
      | none => exact .rejected identifier field target there made
      | some edit => exact .applied identifier field edit target there made

theorem isSome_edits? (member : String × Json) :
    (Verdict.of store.contains member.1 member.2).edits?.isSome = isApplied store member := by
  rw [Verdict.of_target]
  cases outcome store member with
  | unknown nothing =>
    cases h : (splitKey? member.1).isSome <;> simp [isApplied, addresses, Verdict.edits?, *]
  | _ => simp [isApplied, addresses, Verdict.edits?, *]

theorem remark?_eq (member : String × Json) :
    Judged.remark? ⟨member.1, member.2, .of store.contains member.1 member.2⟩ =
      remarkOn? store member := by
  rw [Verdict.of_target]
  cases outcome store member with
  | unknown nothing =>
    cases h : (splitKey? member.1).isSome <;>
      simp [Judged.remark?, remarkOn?, lost?, isRejected, addresses, *]
  | _ => simp [Judged.remark?, remarkOn?, lost?, isRejected, addresses, *]

/-- A key sets a field, or is rejected, or addresses nothing, or is for an identifier that is gone;
and it is only one of these. -/
theorem countP_outcomes (values : List (String × Json)) :
    values.countP (isApplied store) + values.countP (isRejected store) +
      values.countP (fun m => (target? m.1).isNone) +
      values.countP (fun m => (lost? store m).isSome) = values.length := by
  induction values with
  | nil => rfl
  | cons m rest ih =>
    have one : (if isApplied store m then 1 else 0) + (if isRejected store m then 1 else 0) +
        (if (target? m.1).isNone then 1 else 0) +
          (if (lost? store m).isSome then 1 else 0) = 1 := by
      cases outcome store m <;> simp [isApplied, isRejected, addresses, lost?, *]
    simp only [List.countP_cons, List.length_cons]
    omega

theorem remarks_eq (document : Document) :
    document.remarks store =
      Remark.once [] ((document.identifiers.filter fun id => !store.contains id).map .stale ++
        document.values.filterMap (remarkOn? store)) := by
  rw [remarks, judge, List.filterMap_map]
  congr 2
  exact List.filterMap_congr fun m _ => remark?_eq store m

theorem staleIdentifier?_remarkOn (values : List (String × Json)) :
    (values.filterMap (remarkOn? store)).filterMap Remark.staleIdentifier? =
      values.filterMap (lost? store) := by
  rw [List.filterMap_filterMap]
  refine List.filterMap_congr fun m _ => ?_
  unfold remarkOn?
  cases lost? store m with
  | some identifier => rfl
  | none => cases isRejected store m <;> rfl

theorem rejected?_remarkOn (values : List (String × Json)) :
    (values.filterMap (remarkOn? store)).filterMap Remark.rejected? =
      values.filter (isRejected store) := by
  rw [List.filterMap_filterMap, ← List.filterMap_eq_filter]
  refine List.filterMap_congr fun m _ => ?_
  cases outcome store m <;>
    simp [remarkOn?, lost?, isRejected, addresses, Remark.rejected?, Option.guard, *]

/-- The notes that come with the keys, in their order. -/
theorem notes_keys (values : List (String × Json)) {seen told : List String}
    (same : ∀ id, id ∈ seen ↔ id ∈ told) :
    (Remark.once seen (values.filterMap (remarkOn? store))).map Remark.note =
      (values.mapIdx fun i m =>
        keyNotes store (told ++ (values.take i).filterMap (lost? store)) m).flatten := by
  induction values generalizing seen told with
  | nil => rfl
  | cons m rest ih =>
    rw [List.mapIdx_cons, List.flatten_cons, List.take_zero, List.filterMap_nil, List.append_nil]
    simp only [List.take_succ_cons]
    cases lost : lost? store m with
    | some identifier =>
      have extended (id : String) : id ∈ identifier :: seen ↔ id ∈ told ++ [identifier] := by
        simp [same, or_comm]
      rw [List.filterMap_cons_some (by rw [remarkOn?, lost]), Remark.once_cons_stale,
        List.map_append, ih extended]
      simp only [List.filterMap_cons_some lost, List.append_assoc, List.singleton_append]
      by_cases known : identifier ∈ told <;>
        simp [keyNotes, lost, same, known, Remark.note, staleNote]
    | none =>
      simp only [List.filterMap_cons_none lost]
      rw [← ih same]
      cases rejected : isRejected store m <;>
        simp [remarkOn?, lost, rejected, keyNotes, Remark.once, Remark.note,
          unsupportedNote]

/-- A key of an entry that is there sets its field if its value suits the field, and is rejected
otherwise. -/
theorem applied_or_rejected {member : String × Json} {identifier : String} {field : Field}
    (target : target? member.1 = some (identifier, field))
    (there : store.contains identifier = true) :
    (isApplied store member = true ∧ ∃ flat, Suits field member.2 flat) ∨
      (isRejected store member = true ∧ ∀ flat, ¬ Suits field member.2 flat) := by
  cases made : Verdict.edit? field member.2 with
  | some edit =>
    exact .inl ⟨by simp [isApplied, addresses, *], edit.value, (suits_of_edit? made).2⟩
  | none =>
    refine .inr ⟨by simp [isRejected, addresses, *], fun flat suits => ?_⟩
    obtain ⟨edit, found, _⟩ := suits.edit?_eq_some
    rw [made] at found
    cases found

/-! ## The whole load -/

variable (document : Document)

theorem applied_eq :
    (document.summary store).applied = document.values.countP (isApplied store) := by
  rw [summary, edits, judge, List.filterMap_map, List.length_filterMap_eq_countP]
  exact List.countP_congr fun m _ => by simp [isSome_edits?]

theorem unknownKeys_eq :
    (document.summary store).unknownKeys =
      document.values.countP fun m => (target? m.1).isNone := by
  rw [summary, judge, List.countP_map]
  exact List.countP_congr fun m _ => by simp [Verdict.isUnknown_of]

theorem rejected?_remarks :
    (document.remarks store).filterMap Remark.rejected? =
      document.values.filter (isRejected store) := by
  rw [remarks_eq, Remark.rejected_once, List.filterMap_append, rejected?_remarkOn]
  simp [Function.comp_def, Remark.rejected?]

theorem rejectedKeys_eq :
    (document.summary store).rejectedKeys =
      (document.values.filter (isRejected store)).map (·.1) := by
  rw [← rejected?_remarks, List.map_filterMap]
  exact List.filterMap_congr fun r _ => r.rejectedKey?_eq

theorem staleIdentifiers_eq :
    (document.summary store).staleIdentifiers =
      ((document.identifiers.filter fun id => !store.contains id) ++
        document.values.filterMap (lost? store)).eraseDups := by
  rw [summary, remarks_eq, Remark.staleIdentifiers_once, List.filterMap_append,
    staleIdentifier?_remarkOn]
  simp [Function.comp_def, Remark.staleIdentifier?]

/-- First come the notes on listed identifiers, then those that come with the keys. -/
theorem notes_eq :
    document.notes store =
      (document.identifiers.filter fun id => !store.contains id).eraseDups.map staleNote ++
        (document.values.mapIdx fun i m => keyNotes store
          ((document.identifiers.filter fun id => !store.contains id) ++
            (document.values.take i).filterMap (lost? store)) m).flatten := by
  rw [notes, remarks_eq, Remark.once_append_stale, List.map_append, List.append_nil,
    notes_keys store document.values fun id => Iff.rfl]
  simp [Function.comp_def, Remark.note, staleNote]

theorem notes_perm :
    (document.notes store).Perm
      ((document.summary store).staleIdentifiers.map staleNote ++
        (document.values.filter (isRejected store)).map unsupportedNote) := by
  rw [← rejected?_remarks]
  exact Remark.notes_perm _

/-- **Nothing in a document is lost silently or reported twice.** Each key is counted once: as one
that sets a field, as rejected, as unknown, or as one for an identifier that is gone. The
identifiers that are gone are listed where they come up first, those that the document lists before
those of its keys, each once. The operator gets one note for each of them and one for each rejected
key: first the notes on listed identifiers, then those that come with the keys, in their order.
Earlier notes stay as they are. -/
theorem load_accounts (document : Document) (store : Store) :
    let summary := document.summary store
    let notes := document.notes store
    let gone := document.identifiers.filter fun id => !store.contains id
    let lost := document.values.filterMap (lost? store)
    let rejected := document.values.filter (isRejected store)
    summary.applied + summary.rejectedKeys.length + summary.unknownKeys + lost.length =
      document.values.length ∧
    summary.applied = document.values.countP (isApplied store) ∧
    summary.rejectedKeys = rejected.map (·.1) ∧
    summary.unknownKeys = document.values.countP (fun m => (target? m.1).isNone) ∧
    summary.staleIdentifiers = (gone ++ lost).eraseDups ∧
    summary.staleIdentifiers.Nodup ∧
    notes = gone.eraseDups.map staleNote ++
      (document.values.mapIdx fun i m =>
        keyNotes store (gone ++ (document.values.take i).filterMap (lost? store)) m).flatten ∧
    notes.Perm (summary.staleIdentifiers.map staleNote ++ rejected.map unsupportedNote) ∧
    (∀ session : Session, session.store = store →
      (session.overlaid document).notes.lines = session.notes.lines ++ notes) ∧
    ∀ m ∈ document.values, ∀ id field, target? m.1 = some (id, field) → store.contains id →
      (isApplied store m = true ∧ ∃ flat, Suits field m.2 flat) ∨
        (m ∈ rejected ∧ ∀ flat, ¬ Suits field m.2 flat) := by
  intro summary notes gone lost rejected
  have applied := applied_eq store document
  have rejectedKeys := rejectedKeys_eq store document
  have unknown := unknownKeys_eq store document
  have stale := staleIdentifiers_eq store document
  refine ⟨?_, applied, rejectedKeys, unknown, stale, stale ▸ nodup_eraseDups _,
    notes_eq store document, notes_perm store document, fun session same => ?_,
    fun m hm id field target there => ?_⟩
  · have shared := countP_outcomes store document.values
    rw [List.countP_eq_length_filter (p := isRejected store)] at shared
    rw [applied, rejectedKeys, unknown, List.length_map, List.length_filterMap_eq_countP]
    exact shared
  · rw [Session.overlaid, same]
    rfl
  · obtain set | ⟨refused, unsuited⟩ := applied_or_rejected store target there
    · exact .inl set
    · exact .inr ⟨List.mem_filter.2 ⟨hm, refused⟩, unsuited⟩

/-- A document with a repeated identifier that is gone, one that only a key names, a value that
suits no flag, and a key that is no field's. -/
def mixedDocument : Document := ⟨["ui_gone", "ui_a", "ui_gone"], [
  ("ui_late_name", .string "late"),
  ("ui_a_pro", .string "yes"),
  ("ui_gone_type", .string "ARC_CT"),
  ("title", .null),
  ("ui_a_grp", .bool true)]⟩

theorem load_accounts_mixed :
    mixedDocument.notes (Store.ofCalls nestedCalls) = [
      "ui_gone not in current code, skipping",
      "ui_late not in current code, skipping",
      "ui_a_pro has unsupported value \"yes\", skipping"] ∧
    (mixedDocument.summary (Store.ofCalls nestedCalls)).unknownKeys = 1 := by
  obtain ⟨_, _, _, unknown, _, _, notes, _⟩ :=
    load_accounts mixedDocument (Store.ofCalls nestedCalls)
  exact ⟨notes.trans (by decide +kernel), unknown.trans (by decide +kernel)⟩

end Document

end WidgetBindings
