import WidgetBindings.Notes
import WidgetBindings.Overlay
import WidgetBindings.Proofs.Document.Key

/-!
# A configuration survives changes of the header

What becomes of a store when the snapshot of another one is laid over it. The two may share none,
some or all of their identifiers:

* `edits_ofStore`: the snapshot makes the edits that restore the entries both stores have;
* `toList_overlay_ofStore`: each entry that both have is as it was saved, every other one stays;
* `remarks_ofStore`: the operator is told once of each identifier that is gone, and of nothing else.
-/

namespace WidgetBindings

theorem flatMap_filter {α β : Type} (p : α → Bool) (f : α → List β) (l : List α) :
    (l.filter p).flatMap f = l.flatMap fun a => if p a then f a else [] := by
  induction l with
  | nil => rfl
  | cons a l ih => cases h : p a <;> simp [h, ih]

namespace Remark

/-- Identifiers that are new and all different are all remarked on. -/
theorem once_append {ids seen : List String} {rest : List Remark} (distinct : ids.Nodup)
    (new : ∀ id ∈ ids, id ∉ seen) :
    once seen (ids.map stale ++ rest) = ids.map stale ++ once (ids.reverse ++ seen) rest := by
  induction ids generalizing seen with
  | nil => rfl
  | cons id ids ih =>
    obtain ⟨fresh, distinct⟩ := List.nodup_cons.1 distinct
    have unseen : ∀ other ∈ ids, other ∉ id :: seen := by
      intro other mem
      have ne : other ≠ id := fun h => fresh (h ▸ mem)
      simp [ne, new other (List.mem_cons_of_mem _ mem)]
    simp [once, new id List.mem_cons_self, ih distinct unseen]

/-- Identifiers that were remarked on before are not remarked on again. -/
theorem once_eq_nil {seen : List String} {rest : List Remark}
    (known : ∀ r ∈ rest, ∃ id ∈ seen, r = stale id) : once seen rest = [] := by
  induction rest with
  | nil => rfl
  | cons r rest ih =>
    obtain ⟨id, mem, rfl⟩ := known r List.mem_cons_self
    simp [once, mem, ih fun r hr => known r (List.mem_cons_of_mem _ hr)]

end Remark

namespace Document

open Store (editsFor)

theorem toList_overlay (document : Document) (store : Store) :
    (document.overlay store).toList =
      store.toList.map fun e => e.applyAll (editsFor (document.edits store) e.identifier) :=
  store.toList_editAll _

@[simp] theorem identifiers_overlay (document : Document) (store : Store) :
    (document.overlay store).identifiers = store.identifiers :=
  store.identifiers_editAll _

/-- A flat value asks for the same edit from a document as from a caller. -/
theorem edit?_toJson (field : Field) (value : FieldValue) :
    Verdict.edit? field value.toJson = (Edit.ofValue field value).toOption := by
  cases value <;> rfl

theorem edit?_value (e : Entry) (field : Field) :
    Verdict.edit? field (e.value field).toJson = some (e.restoring field) := by
  rw [edit?_toJson, Edit.ofValue_value]
  rfl

/-- A key of a snapshot restores its field, or its identifier is gone. -/
theorem verdict_value {e : Entry} (named : e.identifier ≠ "") (present : String → Bool)
    (field : Field) :
    Verdict.of present (fieldKey e.identifier field) (e.value field).toJson =
      if present e.identifier then .applied e.identifier (e.restoring field)
      else .stale e.identifier := by
  simp [Verdict.of, splitKey?_fieldKey named, edit?_value]

/-- The edits that restore an entry. -/
def restoration (e : Entry) : List (String × Edit) :=
  Field.all.map fun field => (e.identifier, e.restoring field)

section
variable {saved : Store} (named : ∀ e ∈ saved.toList, e.identifier ≠ "") (store : Store)
include named

theorem judge_ofStore :
    (ofStore saved).judge store = saved.toList.flatMap fun e => Field.all.map fun field =>
      ⟨fieldKey e.identifier field, (e.value field).toJson,
        if store.contains e.identifier then .applied e.identifier (e.restoring field)
        else .stale e.identifier⟩ := by
  simp only [judge, ofStore, List.map_flatMap, entryValues, List.map_map, Function.comp_def]
  refine List.flatMap_congr fun e he => List.map_congr_left fun field _ => ?_
  rw [verdict_value (named e he)]

theorem edits_ofStore :
    (ofStore saved).edits store =
      (saved.toList.filter fun e => store.contains e.identifier).flatMap restoration := by
  rw [edits, judge_ofStore named, List.filterMap_flatMap, flatMap_filter]
  refine List.flatMap_congr fun e _ => ?_
  cases store.contains e.identifier <;> simp [Verdict.edits?, restoration, Field.all]

/-- The edits for an identifier restore its saved entry, if both stores have one. -/
theorem editsFor_ofStore {id : String} (present : store.contains id = true) :
    editsFor ((ofStore saved).edits store) id =
      (saved.get? id).elim [] fun e => Field.all.map e.restoring := by
  have single (e : Entry) : editsFor (restoration e) id =
      if e.identifier = id then Field.all.map e.restoring else [] := by
    by_cases h : e.identifier = id <;> simp [editsFor, restoration, h, Field.all]
  have split (es : List Entry) : editsFor (es.flatMap restoration) id =
      (es.filter fun e => e.identifier = id).flatMap fun e => Field.all.map e.restoring := by
    rw [editsFor, List.filter_flatMap, List.map_flatMap, flatMap_filter]
    simp only [decide_eq_true_eq]
    exact List.flatMap_congr fun e _ => single e
  rw [edits_ofStore named, split, List.filter_filter]
  have both :
      (saved.toList.filter fun e => decide (e.identifier = id) && store.contains e.identifier)
      = saved.toList.filter fun e => e.identifier = id := by
    refine List.filter_congr fun e _ => ?_
    by_cases h : e.identifier = id <;> simp [h, present]
  rw [both, saved.filter_identifier]
  cases saved.get? id <;> simp

/-- Each entry that was saved is as it was saved, and every other one stays. -/
theorem toList_overlay_ofStore :
    ((ofStore saved).overlay store).toList =
      store.toList.map fun e => (saved.get? e.identifier).getD e := by
  rw [toList_overlay]
  refine List.map_congr_left fun e he => ?_
  have present : store.contains e.identifier = true :=
    (store.contains_iff _).2 (List.mem_map_of_mem he)
  rw [editsFor_ofStore named store present]
  cases h : saved.get? e.identifier with
  | none => rfl
  | some f =>
    have same := ((saved.get?_eq_some_iff _ _).1 h).2
    simp [Entry.applyAll_restoring same.symm]

/-- The operator is told of each identifier that is gone, once, in the order of the snapshot. -/
theorem remarks_ofStore :
    (ofStore saved).remarks store =
      (saved.identifiers.filter fun id => !store.contains id).map .stale := by
  have distinct : (saved.identifiers.filter fun id => !store.contains id).Nodup :=
    saved.nodup_identifiers.filter _
  rw [remarks, show (ofStore saved).identifiers = saved.identifiers from rfl,
    Remark.once_append distinct (by simp), Remark.once_eq_nil, List.append_nil]
  intro r hr
  obtain ⟨j, hj, hr⟩ := List.mem_filterMap.1 hr
  rw [judge_ofStore named] at hj
  obtain ⟨e, he, hj⟩ := List.mem_flatMap.1 hj
  obtain ⟨field, _, rfl⟩ := List.mem_map.1 hj
  cases h : store.contains e.identifier with
  | true => simp [Judged.remark?, h] at hr
  | false =>
    have member : e.identifier ∈ saved.identifiers := List.mem_map_of_mem he
    have gone : e.identifier ∈ saved.identifiers.filter fun id => !store.contains id := by
      simpa [member] using h
    exact ⟨e.identifier, by simpa using gone, by simpa [Judged.remark?, h, eq_comm] using hr⟩

/-- No key of a snapshot is unknown. -/
theorem countP_isUnknown_ofStore :
    ((ofStore saved).judge store).countP (fun j => j.verdict.isUnknown) = 0 := by
  rw [List.countP_eq_zero, judge_ofStore named]
  intro j hj
  obtain ⟨e, he, hj⟩ := List.mem_flatMap.1 hj
  obtain ⟨field, _, rfl⟩ := List.mem_map.1 hj
  cases store.contains e.identifier <;> simp [Verdict.isUnknown]

theorem length_edits_ofStore :
    ((ofStore saved).edits store).length =
      6 * (saved.identifiers.filter store.contains).length := by
  have six (es : List Entry) : (es.flatMap restoration).length = 6 * es.length := by
    induction es with
    | nil => rfl
    | cons e es ih =>
      rw [List.flatMap_cons, List.length_append, ih, List.length_cons]
      simp only [restoration, Field.all, List.length_map, List.length_cons, List.length_nil]
      omega
  rw [edits_ofStore named, six, Store.identifiers, List.filter_map, List.length_map]
  rfl

/-- A load of a snapshot rejects nothing, and its counts follow from the two lists of
identifiers. -/
theorem summary_ofStore :
    (ofStore saved).summary store =
      ⟨6 * (saved.identifiers.filter store.contains).length,
        saved.identifiers.filter fun id => !store.contains id, [], 0⟩ := by
  simp [summary, remarks_ofStore named, length_edits_ofStore named,
    countP_isUnknown_ofStore named, List.filterMap_map, Function.comp_def,
    Remark.staleIdentifier?, Remark.rejectedKey?]

theorem notes_ofStore :
    (ofStore saved).notes store =
      (saved.identifiers.filter fun id => !store.contains id).map
        fun id => s!"{id} not in current code, skipping" := by
  simp [notes, remarks_ofStore named, Function.comp_def, Remark.note]

variable {store} (same : saved.identifiers = store.identifiers)

include same

omit named in
theorem gone_eq_nil : saved.identifiers.filter (fun id => !store.contains id) = [] := by
  refine List.filter_eq_nil_iff.2 fun id mem => ?_
  simp [(store.contains_iff id).2 (same ▸ mem)]

theorem overlay_ofStore_of_same : (ofStore saved).overlay store = saved := by
  apply Store.ext
  rw [toList_overlay_ofStore named]
  exact Store.map_get?_of_identifiers_eq same

theorem notes_ofStore_of_same : (ofStore saved).notes store = [] := by
  rw [notes_ofStore named, gone_eq_nil same]
  rfl

theorem summary_ofStore_of_same :
    (ofStore saved).summary store = ⟨6 * saved.size, [], [], 0⟩ := by
  have present : saved.identifiers.filter store.contains = saved.identifiers :=
    List.filter_eq_self.2 fun id mem => (store.contains_iff id).2 (same ▸ mem)
  rw [summary_ofStore named, gone_eq_nil same, present, saved.length_identifiers]

end

/-- **A configuration survives changes of the header.** The snapshot of a store is laid over another
one, each built by any calls about identifiers that are not empty. The identifiers stay as they are;
an entry that was saved is as it was saved, and every other one is left alone. The operator is told
once of each identifier that is gone, and of nothing else. -/
theorem snapshot_survives (before now : List Store.Call)
    (named : ∀ c ∈ before, c.identifier ≠ "") :
    let saved := Store.ofCalls before
    let store := Store.ofCalls now
    let loaded := (ofStore saved).overlay store
    let gone := saved.identifiers.filter fun id => !store.contains id
    loaded.identifiers = store.identifiers ∧
    loaded.toList = store.toList.map (fun e => (saved.get? e.identifier).getD e) ∧
    (ofStore saved).summary store =
      ⟨6 * (saved.identifiers.filter store.contains).length, gone, [], 0⟩ ∧
    gone.Nodup ∧
    (∀ log : Notes, (log.append ((ofStore saved).notes store)).lines =
      log.lines ++ gone.map fun id => s!"{id} not in current code, skipping") ∧
    (saved.identifiers = store.identifiers →
      loaded = saved ∧ ∀ log : Notes, log.append ((ofStore saved).notes store) = log) := by
  intro saved store loaded gone
  have named : ∀ e ∈ saved.toList, e.identifier ≠ "" := by
    intro e he
    obtain ⟨c, hc, same⟩ := Store.mem_identifiers_ofCalls (List.mem_map_of_mem he)
    exact same ▸ named c hc
  have notes := notes_ofStore named store
  have entries := toList_overlay_ofStore named store
  refine ⟨identifiers_overlay _ _, entries, summary_ofStore named store,
    saved.nodup_identifiers.filter _, fun log => by rw [notes]; rfl,
    fun same => ⟨overlay_ofStore_of_same named same, fun log => ?_⟩⟩
  rw [notes_ofStore_of_same named same, Notes.append, List.append_nil]

/-- Calls whose identifiers begin one another and end like keys. -/
def nestedCalls : List Store.Call := [
  .insert (.ofMapping "ui_a" "first \"a\"" .fallback),
  .insert (.ofMapping "ui_a_name" "second" .fallback),
  .insert (.ofMapping "ui_a_pro" "third" .fallback),
  .edit "ui_a_name" (.produce true)]

/-- Calls for a later header: one identifier is new, one is gone, and two have changed places. -/
def laterCalls : List Store.Call := [
  .insert (.ofMapping "ui_b" "new" .fallback),
  .insert (.ofMapping "ui_a_name" "default" .fallback),
  .insert (.ofMapping "ui_a" "default" .fallback)]

theorem snapshot_survives_nested :
    (∀ c ∈ nestedCalls, c.identifier ≠ "") ∧
    ((ofStore (Store.ofCalls nestedCalls)).overlay (Store.ofCalls laterCalls)).toList = [
      .ofMapping "ui_b" "new" .fallback,
      { Entry.ofMapping "ui_a_name" "second" .fallback with produce := true },
      .ofMapping "ui_a" "first \"a\"" .fallback] := by
  have named : ∀ c ∈ nestedCalls, c.identifier ≠ "" := by
    simp [nestedCalls, Store.Call.identifier, Entry.ofMapping]
  exact ⟨named, (snapshot_survives nestedCalls laterCalls named).2.1.trans (by decide +kernel)⟩

end Document

end WidgetBindings
