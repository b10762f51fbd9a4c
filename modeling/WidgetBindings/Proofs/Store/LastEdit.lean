import WidgetBindings.Proofs.Outcome
import WidgetBindings.Proofs.Overlay.Addressing
import WidgetBindings.Proofs.Store.Parts
import WidgetBindings.Source

/-!
# The last edit of a field counts

Edits one after the other, of any entries in any order, those for which there is no entry included.
Each edit is for one cell: one field of the entry of an identifier.

* `Entry.restoring_applyAll`: a field of an entry ends as the last edit of it has set it, whatever
  the other edits are;
* `editAll_congr`: edits that agree on the last one for every cell lead to the same store, so edits
  of different cells may change places (`editAll_comm`) and a repetition changes nothing
  (`editAll_again`);
* `last_edit_counts`: all of it, with what follows for the generated source.
-/

namespace WidgetBindings

/-! ## Single entries -/

namespace Entry

/-- After an edit, its field is restored by the edit itself, and the other five as before. -/
theorem restoring_apply (entry : Entry) (edit : Edit) (field : Field) :
    (entry.apply edit).restoring field =
      if edit.field = field then edit else entry.restoring field := by
  cases edit <;> cases field <;> rfl

/-- An entry is known from its identifier and its six fields. -/
theorem eq_of_restoring {e f : Entry} (id : e.identifier = f.identifier)
    (same : ∀ field, e.restoring field = f.restoring field) : e = f := by
  have name := Edit.displayName.inj (same .displayName)
  have type := Edit.controlType.inj (same .controlType)
  have event := Edit.event.inj (same .event)
  have produce := Edit.produce.inj (same .produce)
  have consume := Edit.consume.inj (same .consume)
  have group := Edit.group.inj (same .group)
  cases e
  cases f
  simp_all

/-- A field ends as the last edit of it has set it. -/
theorem restoring_applyAll (entry : Entry) (edits : List Edit) (field : Field) :
    (entry.applyAll edits).restoring field =
      (edits.filter fun edit => edit.field = field).getLast?.getD (entry.restoring field) := by
  induction edits generalizing entry with
  | nil => rfl
  | cons edit edits ih =>
    have step : (entry.applyAll (edit :: edits)) = (entry.apply edit).applyAll edits := rfl
    rw [step, ih, restoring_apply]
    by_cases here : edit.field = field
    · rw [if_pos here, List.filter_cons_of_pos (by simpa using here), List.getLast?_cons]
      rfl
    · rw [if_neg here, List.filter_cons_of_neg (by simpa using here)]

theorem field_restoring (entry : Entry) (field : Field) :
    (entry.restoring field).field = field := by
  cases field <;> rfl

theorem value_restoring (entry : Entry) (field : Field) :
    (entry.restoring field).value = entry.value field := by
  cases field <;> rfl

/-- To set a field to what it is changes nothing. -/
theorem apply_restoring (entry : Entry) (field : Field) :
    entry.apply (entry.restoring field) = entry := by
  cases field <;> rfl

end Entry

namespace Store

/-! ## Cells -/

/-- The cell that an edit is for: an identifier and a field of its entry. -/
def cell (edit : String × Edit) : String × Field := (edit.1, edit.2.field)

/-- The last of some edits that is for a cell. -/
def lastEdit? (edits : List (String × Edit)) (target : String × Field) : Option Edit :=
  (edits.filter fun edit => cell edit = target).getLast?.map (·.2)

theorem lastEdit?_append (edits more : List (String × Edit)) (target : String × Field) :
    lastEdit? (edits ++ more) target = (lastEdit? more target).or (lastEdit? edits target) := by
  simp only [lastEdit?, List.filter_append, List.getLast?_append, Option.map_or]

theorem lastEdit?_eq_none_iff {edits : List (String × Edit)} {target : String × Field} :
    lastEdit? edits target = none ↔ ∀ edit ∈ edits, cell edit ≠ target := by
  simp [lastEdit?]

/-- The edits for an identifier hold the last one for each of its cells. -/
theorem lastEdit?_editsFor (edits : List (String × Edit)) (id : String) (field : Field) :
    ((editsFor edits id).filter fun edit => edit.field = field).getLast? =
      lastEdit? edits (id, field) := by
  have both : edits.filter (fun edit => cell edit = (id, field)) =
      (edits.filter fun edit => edit.1 = id).filter fun edit => edit.2.field = field := by
    rw [List.filter_filter]
    refine List.filter_congr fun edit _ => ?_
    simp [cell, Bool.and_comm]
  rw [lastEdit?, both, editsFor, List.filter_map, List.getLast?_map]
  rfl

/-! ## Edits one after the other -/

variable {store : Store} {edits more : List (String × Edit)}

theorem editAll_append (store : Store) (edits more : List (String × Edit)) :
    store.editAll (edits ++ more) = (store.editAll edits).editAll more :=
  List.foldl_append

theorem editAll_cons_of_ok {changed : Store} {id : String} {edit : Edit}
    (made : store.edit id edit = .ok changed) (rest : List (String × Edit)) :
    store.editAll ((id, edit) :: rest) = changed.editAll rest := by
  rw [editAll, List.foldl_cons, made]
  rfl

/-- Edits of one entry that are all made. -/
theorem editAll_of_foldlM {final : Store} {id : String} {edits : List Edit}
    (made : edits.foldlM (fun store edit => store.edit id edit) store = .ok final) :
    store.editAll (edits.map (id, ·)) = final := by
  induction edits generalizing store with
  | nil =>
    cases made
    rfl
  | cons edit edits ih =>
    rw [List.foldlM_cons] at made
    obtain ⟨changed, first, others⟩ := bind_eq_ok_iff.1 made
    rw [List.map_cons, editAll_cons_of_ok first, ih others]

/-- Nothing but the last edit for each cell counts. -/
theorem editAll_congr (same : ∀ id ∈ store.identifiers, ∀ field,
    lastEdit? edits (id, field) = lastEdit? more (id, field)) :
    store.editAll edits = store.editAll more := by
  apply ext
  rw [toList_editAll, toList_editAll]
  refine List.map_congr_left fun e he => ?_
  have there : e.identifier ∈ store.identifiers := List.mem_map_of_mem he
  apply Entry.eq_of_restoring
  · rw [Entry.identifier_applyAll, Entry.identifier_applyAll]
  · intro field
    rw [Entry.restoring_applyAll, Entry.restoring_applyAll, lastEdit?_editsFor, lastEdit?_editsFor,
      same _ there]

/-- Edits of different cells may change places. -/
theorem editAll_comm (apart : ∀ e ∈ edits, ∀ f ∈ more, cell e ≠ cell f) :
    (store.editAll edits).editAll more = (store.editAll more).editAll edits := by
  rw [← editAll_append, ← editAll_append]
  apply editAll_congr
  intro id _ field
  rw [lastEdit?_append, lastEdit?_append]
  -- one of the two lists has no edit for this cell
  by_cases touched : ∃ e ∈ edits, cell e = (id, field)
  · obtain ⟨e, he, here⟩ := touched
    have others : ∀ f ∈ more, cell f ≠ (id, field) := by
      intro f hf there
      exact apart e he f hf (here.trans there.symm)
    rw [lastEdit?_eq_none_iff.2 others, Option.or_none, Option.none_or]
  · have untouched : ∀ e ∈ edits, cell e ≠ (id, field) := fun e he here => touched ⟨e, he, here⟩
    rw [lastEdit?_eq_none_iff.2 untouched, Option.or_none, Option.none_or]

/-- Edits that are made again change nothing. -/
theorem editAll_again (store : Store) (edits : List (String × Edit)) :
    (store.editAll edits).editAll edits = store.editAll edits := by
  rw [← editAll_append]
  apply editAll_congr
  intro id _ field
  rw [lastEdit?_append, Option.or_self]

/-- Edits that are turned down are skipped, in the store as in its two parts. -/
theorem answerAll_edits (store : Store) (edits : List (String × Edit)) :
    ∃ answers, store.parts.answerAll (edits.map fun e => .edit e.1 e.2) =
      some (answers, (store.editAll edits).parts) := by
  have calls : (edits.map fun e => Call.edit e.1 e.2).foldl call store = store.editAll edits :=
    List.foldl_map
  rw [answerAll_parts, calls]
  exact ⟨_, rfl⟩

/-- Each field of an entry ends with the value that the last edit of it has given it. -/
theorem value_editAll (edits : List (String × Edit)) {e : Entry} (he : e ∈ store.toList) :
    ∃ e', (store.editAll edits).get? e.identifier = some e' ∧ ∀ field, e'.value field =
      (lastEdit? edits (e.identifier, field)).elim (e.value field) Edit.value := by
  have listed : e.applyAll (editsFor edits e.identifier) ∈ (store.editAll edits).toList := by
    rw [toList_editAll]
    exact List.mem_map_of_mem he
  have found := get?_of_mem listed
  rw [Entry.identifier_applyAll] at found
  refine ⟨_, found, fun field => ?_⟩
  rw [← Entry.value_restoring, Entry.restoring_applyAll, lastEdit?_editsFor]
  cases lastEdit? edits (e.identifier, field) with
  | none => exact e.value_restoring field
  | some edit => rfl

/-- One edit gives its field of its entry a value, and leaves all others as they are. -/
theorem value_edit {changed : Store} {id : String} {edit : Edit}
    (made : store.edit id edit = .ok changed) {e : Entry} (he : e ∈ store.toList) :
    ∃ e', changed.get? e.identifier = some e' ∧ ∀ field, e'.value field =
      if e.identifier = id ∧ field = edit.field then edit.value else e.value field := by
  have once : store.editAll [(id, edit)] = changed := editAll_cons_of_ok made []
  obtain ⟨e', found, values⟩ := value_editAll [(id, edit)] he
  rw [once] at found
  refine ⟨e', found, fun field => ?_⟩
  rw [values]
  by_cases here : cell (id, edit) = (e.identifier, field)
  · obtain ⟨rfl, rfl⟩ := Prod.mk.inj here
    simp [lastEdit?, cell]
  · have other : ¬ (e.identifier = id ∧ field = edit.field) := by
      rintro ⟨rfl, rfl⟩
      exact here rfl
    have none : lastEdit? [(id, edit)] (e.identifier, field) = none := by
      rw [lastEdit?_eq_none_iff]
      simpa using here
    rw [none, if_neg other]
    rfl

/-- **The last edit of a field counts.** Edits are made one after the other, and those for which
there is no entry are skipped; the two parts of the store are changed in place and stay in step. The
identifiers stay as they are. Each field of each entry ends with the value of the last edit for it,
and keeps what it held if there is none. So edits that agree on the last one for every cell of an
entry that is there lead to the same store and the same generated source, edits of different cells
may change places, and edits that are made again change nothing. The value of a field makes an edit
of that field, which changes nothing in the entry that it was taken from. -/
theorem last_edit_counts (store : Store) :
    (∀ edits, (∃ answers, store.parts.answerAll (edits.map fun e => .edit e.1 e.2) =
        some (answers, (store.editAll edits).parts)) ∧
      (store.editAll edits).identifiers = store.identifiers ∧
      ∀ e ∈ store.toList, ∃ e', (store.editAll edits).get? e.identifier = some e' ∧
        ∀ field, e'.value field =
          (lastEdit? edits (e.identifier, field)).elim (e.value field) Edit.value) ∧
    (∀ edits others, (∀ id ∈ store.identifiers, ∀ field,
        lastEdit? edits (id, field) = lastEdit? others (id, field)) →
      store.editAll edits = store.editAll others ∧
      ∀ options, Source.text (store.editAll edits) options =
        Source.text (store.editAll others) options) ∧
    (∀ edits others, (∀ e ∈ edits, ∀ f ∈ others, cell e ≠ cell f) →
      (store.editAll edits).editAll others = (store.editAll others).editAll edits) ∧
    (∀ edits, (store.editAll edits).editAll edits = store.editAll edits) ∧
    ∀ (e : Entry) (field : Field), ∃ edit, Edit.ofValue field (e.value field) = .ok edit ∧
      edit.field = field ∧ e.apply edit = e := by
  refine ⟨fun edits => ⟨store.answerAll_edits edits, store.identifiers_editAll edits, ?_⟩, ?_,
    fun _ _ => editAll_comm, store.editAll_again, ?_⟩
  · intro e he
    exact value_editAll edits he
  · intro edits others same
    have stores : store.editAll edits = store.editAll others := editAll_congr same
    exact ⟨stores, fun options => by rw [stores]⟩
  · intro e field
    exact ⟨e.restoring field, Edit.ofValue_value e field, e.field_restoring field,
      e.apply_restoring field⟩

/-- Two entries whose identifiers begin alike. -/
def siblings : Store :=
  ofCalls [.insert (.ofMapping "ui_a" "first" .fallback),
    .insert (.ofMapping "ui_a_name" "second" .fallback)]

/-- Edits of three cells, one of them made twice, and one for which there is no entry. -/
def crowdedEdits : List (String × Edit) := [
  ("ui_a", .produce true), ("ui_gone", .group true), ("ui_a_name", .event .key),
  ("ui_a", .produce false), ("ui_a", .displayName "third")]

/-- The edits that are left of them, in another order. -/
def sparseEdits : List (String × Edit) := [
  ("ui_a", .displayName "third"), ("ui_a_name", .event .key), ("ui_a", .produce false)]

theorem last_edit_counts_crowded :
    (∀ id ∈ siblings.identifiers, ∀ field,
      lastEdit? crowdedEdits (id, field) = lastEdit? sparseEdits (id, field)) ∧
    siblings.editAll crowdedEdits = siblings.editAll sparseEdits := by
  have same : ∀ id ∈ siblings.identifiers, ∀ field,
      lastEdit? crowdedEdits (id, field) = lastEdit? sparseEdits (id, field) := by
    have names : siblings.identifiers = ["ui_a", "ui_a_name"] := by decide +kernel
    rw [names]
    intro id mem field
    revert id
    cases field <;> decide
  exact ⟨same, ((last_edit_counts siblings).2.1 crowdedEdits sparseEdits same).1⟩

end Store

end WidgetBindings
