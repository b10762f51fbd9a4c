import WidgetBindings.Proofs.Build.Counts
import WidgetBindings.Proofs.FirstOccurrence

/-!
# What a build selects

`Selected` gives every part of a build in terms of the declarations taken in so far, without regard
to how they were taken in. One more declaration keeps it so (`selected_add`), and so does a whole
scan (`selected_ofDeclarations`).

* `identifiers_ofDeclarations`: the identifiers in the store are those of the accepted declarations,
  each where it came up first;
* `get?_ofDeclarations`: a lookup finds what the declared identifier is classified as;
* `duplicates_ofDeclarations`: all other accepted declarations count as repetitions.
-/

namespace WidgetBindings

/-- The note on a symbol that is turned down under a name. -/
def rejectionNote (strippedName : String) : String :=
  s!"'{strippedName}' produce/consume mapping not supported"

/-- The identifiers of declarations, in their order. -/
def Declaration.identifiers (declarations : List Declaration) : List String :=
  declarations.map Declaration.identifier

namespace Build

open Declaration (identifiers)

/-- A build has selected from declarations: its entries, its counts and its notes are what the
declarations come to. -/
structure Selected (rules : Classifier) (declarations : List Declaration) (build : Build) :
    Prop where
  entries : build.store.toList = (identifiers declarations).eraseDups.filterMap rules.accepted?
  mapped : build.summary.mapped =
    declarations.countP fun d => (rules.classify d.identifier).isMapped
  fallback : build.summary.fallback =
    declarations.countP fun d => (rules.classify d.identifier).isFallback
  rejected : build.summary.rejected =
    declarations.countP fun d => (rules.classify d.identifier).isRejected
  notes : build.notes =
    declarations.filterMap fun d => (rules.classify d.identifier).rejectedName?.map rejectionNote

variable {rules : Classifier} {declarations : List Declaration} {build : Build}

theorem identifiers_concat (declarations : List Declaration) (d : Declaration) :
    identifiers (declarations ++ [d]) = identifiers declarations ++ [d.identifier] :=
  List.map_append

theorem map_identifier_filterMap (rules : Classifier) (ids : List String) :
    (ids.filterMap rules.accepted?).map Entry.identifier = ids.filter rules.accepts := by
  rw [List.map_filterMap, ← List.filterMap_eq_filter]
  refine List.filterMap_congr fun id _ => ?_
  unfold Classifier.accepts
  cases accepted : rules.accepted? id with
  | none => simp [Option.guard, accepted]
  | some e => simp [Option.guard, accepted, Classifier.identifier_of_accepted accepted]

theorem Selected.identifiers (h : build.Selected rules declarations) :
    build.store.identifiers = (identifiers declarations).eraseDups.filter rules.accepts := by
  rw [Store.identifiers, h.entries, map_identifier_filterMap]

theorem filterMap_eraseDups_concat (ids : List String) (id : String) :
    (ids ++ [id]).eraseDups.filterMap rules.accepted? =
      if id ∈ ids then ids.eraseDups.filterMap rules.accepted?
      else ids.eraseDups.filterMap rules.accepted? ++ (rules.accepted? id).toList := by
  rw [eraseDups_concat]
  split
  · rfl
  · rw [List.filterMap_append]
    cases accepted : rules.accepted? id <;> simp [accepted]

/-! ## One more declaration -/

/-- Entering changes the store and the count of repetitions, and nothing that is told. -/
theorem enter_keeps (build : Build) (d : Declaration) (e : Entry) :
    (build.enter d e).summary.mapped = build.summary.mapped ∧
    (build.enter d e).summary.fallback = build.summary.fallback ∧
    (build.enter d e).summary.rejected = build.summary.rejected ∧
    (build.enter d e).notes = build.notes := by
  obtain ⟨_, store, _, h⟩ | ⟨_, h⟩ := build.enter_cases d e
  · rw [h]
    exact ⟨rfl, rfl, rfl, rfl⟩
  · rw [h]
    refine ⟨rfl, rfl, rfl, ?_⟩
    unfold notes
    rw [List.filterMap_append]
    exact List.append_nil _

theorem countP_concat (holds : Declaration → Bool) (declarations : List Declaration)
    (d : Declaration) :
    (declarations ++ [d]).countP holds = declarations.countP holds + (holds d).toNat := by
  rw [List.countP_append, List.countP_singleton]
  cases holds d <;> rfl

/-- An entry is added if its identifier is new. -/
theorem toList_enter (build : Build) (d : Declaration) (e : Entry) :
    (build.enter d e).store.toList =
      if e.identifier ∈ build.store.identifiers then build.store.toList
      else build.store.toList ++ [e] := by
  obtain ⟨new, store, added, h⟩ | ⟨known, h⟩ := build.enter_cases d e
  · rw [h, if_neg new]
    exact added
  · rw [h, if_pos known]

theorem selected_empty (rules : Classifier) : empty.Selected rules [] :=
  ⟨rfl, rfl, rfl, rfl, rfl⟩

theorem selected_add (h : build.Selected rules declarations) (d : Declaration) :
    (build.add rules d).Selected rules (declarations ++ [d]) := by
  obtain ⟨e, accepted, silent⟩ | ⟨name, rejected, absent⟩ :=
    rules.accepted_or_rejected d.identifier
  · -- an accepted identifier is in the store exactly if it was declared before
    have listed : e.identifier ∈ build.store.identifiers ↔
        d.identifier ∈ Declaration.identifiers declarations := by
      rw [h.identifiers, List.mem_filter, List.mem_eraseDups,
        Classifier.identifier_of_accepted accepted]
      simp [Classifier.accepts, accepted]
    obtain ⟨mapped, fallback, rejected, notes⟩ :=
      enter_keeps (build.counted (rules.classify d.identifier)) d e
    rw [add_of_accepted accepted]
    refine ⟨?_, ?_, ?_, ?_, ?_⟩
    · have entered := toList_enter (build.counted (rules.classify d.identifier)) d e
      change _ = if e.identifier ∈ build.store.identifiers then build.store.toList else _ at entered
      rw [entered, identifiers_concat, filterMap_eraseDups_concat, accepted, ← h.entries]
      simp only [listed]
      rfl
    · rw [mapped, countP_concat, ← h.mapped]
      rfl
    · rw [fallback, countP_concat, ← h.fallback]
      rfl
    · rw [rejected, countP_concat, ← h.rejected]
      rfl
    · have unchanged : (build.counted (rules.classify d.identifier)).notes = build.notes := rfl
      rw [notes, unchanged, List.filterMap_append, ← h.notes]
      simp [silent]
  · rw [add_of_rejected rejected]
    refine ⟨?_, ?_, ?_, ?_, ?_⟩
    · rw [identifiers_concat, filterMap_eraseDups_concat, absent, ← h.entries]
      simp [counted]
    · rw [countP_concat, ← h.mapped, rejected]
      rfl
    · rw [countP_concat, ← h.fallback, rejected]
      rfl
    · rw [countP_concat, ← h.rejected, rejected]
      rfl
    · rw [List.filterMap_append, ← h.notes, notes, List.filterMap_append, notes]
      simp [rejected, Incident.note?, Classification.rejectedName?, rejectionNote]

theorem ofDeclarations_concat (rules : Classifier) (declarations : List Declaration)
    (d : Declaration) :
    ofDeclarations rules (declarations ++ [d]) = (ofDeclarations rules declarations).add rules d :=
  List.foldl_append

/-- A scan selects from all its declarations. -/
theorem selected_ofDeclarations (rules : Classifier) (declarations : List Declaration) :
    (ofDeclarations rules declarations).Selected rules declarations := by
  induction declarations using List.reverseRecOn with
  | nil => exact selected_empty rules
  | append_singleton declarations d ih =>
    rw [ofDeclarations_concat]
    exact selected_add ih d

/-! ## What a scan comes to -/

theorem identifiers_ofDeclarations (rules : Classifier) (declarations : List Declaration) :
    (ofDeclarations rules declarations).store.identifiers =
      ((identifiers declarations).filter rules.accepts).eraseDups := by
  rw [(selected_ofDeclarations rules declarations).identifiers, eraseDups_filter]

theorem toList_ofDeclarations (rules : Classifier) (declarations : List Declaration) :
    (ofDeclarations rules declarations).store.toList =
      ((identifiers declarations).filter rules.accepts).eraseDups.filterMap rules.accepted? := by
  rw [(selected_ofDeclarations rules declarations).entries, eraseDups_filter,
    List.filterMap_filter]
  refine List.filterMap_congr fun id _ => ?_
  unfold Classifier.accepts
  cases rules.accepted? id <;> rfl

theorem get?_ofDeclarations (rules : Classifier) (declarations : List Declaration) (id : String) :
    (ofDeclarations rules declarations).store.get? id =
      if id ∈ identifiers declarations then rules.accepted? id else none := by
  apply Option.ext
  intro e
  have found : e ∈ (ofDeclarations rules declarations).store.toList ↔
      ∃ id ∈ identifiers declarations, rules.accepted? id = some e := by
    rw [(selected_ofDeclarations rules declarations).entries, List.mem_filterMap]
    simp only [List.mem_eraseDups]
  rw [Store.get?_eq_some_iff, found]
  constructor
  · rintro ⟨⟨id, declared, accepted⟩, rfl⟩
    obtain rfl := Classifier.identifier_of_accepted accepted
    rw [if_pos declared, accepted]
  · intro accepted
    split at accepted
    · rename_i declared
      exact ⟨⟨id, declared, accepted⟩, Classifier.identifier_of_accepted accepted⟩
    · cases accepted

/-- Accepted declarations are mapped or fall back. -/
theorem countP_accepted (rules : Classifier) (declarations : List Declaration) :
    (declarations.countP fun d => (rules.classify d.identifier).isMapped) +
        (declarations.countP fun d => (rules.classify d.identifier).isFallback) =
      ((identifiers declarations).filter rules.accepts).length := by
  induction declarations using List.reverseRecOn with
  | nil => rfl
  | append_singleton declarations d ih =>
    have last : ([d.identifier].filter rules.accepts).length =
        (rules.classify d.identifier).isMapped.toNat +
          (rules.classify d.identifier).isFallback.toNat := by
      rw [List.filter_cons, Classifier.accepts, Classifier.accepted?]
      cases rules.classify d.identifier <;> rfl
    rw [countP_concat, countP_concat, identifiers_concat, List.filter_append, List.length_append,
      ← ih, last]
    omega

/-- Accepted declarations that did not become entries are repetitions. -/
theorem duplicates_ofDeclarations (rules : Classifier) (declarations : List Declaration) :
    (ofDeclarations rules declarations).summary.duplicates +
        ((identifiers declarations).filter rules.accepts).eraseDups.length =
      ((identifiers declarations).filter rules.accepts).length := by
  have selected := selected_ofDeclarations rules declarations
  have entered := (balanced_ofDeclarations rules declarations).entered
  rw [selected.mapped, selected.fallback, countP_accepted] at entered
  rw [← identifiers_ofDeclarations, Store.length_identifiers]
  omega

end Build

end WidgetBindings
