import WidgetBindings.Proofs.Overlay.LastWriter
import WidgetBindings.Proofs.Session.InPlace
import WidgetBindings.Proofs.Store.LastEdit

/-!
# Loading a document again

What a document makes of a store depends on the identifiers in it, and these never change. So a
second load makes the same edits as the first. On its way it may set a field to something else, for
several keys may set one field, but in the end the last of them counts again.

* `edits_congr`, `summary_congr`, `notes_congr`: nothing but the identifiers counts;
* `Sets.edited`: a key that sets a field makes an edit of it, in every store with an entry for it;
* `overlay_editAll`: edits of fields that the document sets are lost when it is loaded;
* `load_again`: a second load changes nothing and tells the operator the same.
-/

namespace WidgetBindings

theorem Store.contains_congr {s t : Store} (same : s.identifiers = t.identifiers) :
    s.contains = t.contains := by
  funext id
  rw [Bool.eq_iff_iff, contains_iff, contains_iff, same]

namespace Document

open Store (cell lastEdit?)

/-! ## Stores with the same identifiers -/

section
variable (document : Document) {s t : Store} (same : s.identifiers = t.identifiers)
include same

theorem judge_congr : document.judge s = document.judge t := by
  rw [judge, judge, Store.contains_congr same]

theorem edits_congr : document.edits s = document.edits t := by
  rw [edits, edits, document.judge_congr same]

theorem remarks_congr : document.remarks s = document.remarks t := by
  rw [remarks, remarks, document.judge_congr same, Store.contains_congr same]

theorem notes_congr : document.notes s = document.notes t := by
  rw [notes, notes, document.remarks_congr same]

theorem summary_congr : document.summary s = document.summary t := by
  rw [summary, summary, document.edits_congr same, document.remarks_congr same,
    document.judge_congr same]

end

/-! ## Cells that a document sets -/

/-- A document sets a field of the entry of an identifier: it has a key that addresses the field,
with a value that suits it. -/
def Sets (document : Document) (identifier : String) (field : Field) : Prop :=
  ∃ member ∈ document.values, target? member.1 = some (identifier, field) ∧
    ∃ flat, Suits field member.2 flat

variable {document : Document} {store : Store}

/-- A key that sets a field makes an edit of it, if there is an entry. -/
theorem Sets.edited {identifier : String} {field : Field} (h : document.Sets identifier field)
    (there : identifier ∈ store.identifiers) :
    ∃ edit ∈ document.edits store, cell edit = (identifier, field) := by
  obtain ⟨member, listed, target, flat, suits⟩ := h
  obtain ⟨edit, _, rfl, rfl⟩ := suits.edit?_eq_some
  have verdict : Verdict.of store.contains member.1 member.2 = .applied identifier edit :=
    Verdict.of_eq_applied_iff.2 ⟨(store.contains_iff identifier).2 there, target, suits⟩
  have made : (Verdict.of store.contains member.1 member.2).edits? = some (identifier, edit) := by
    rw [verdict]
    rfl
  refine ⟨(identifier, edit), ?_, rfl⟩
  rw [edits_eq]
  exact List.mem_filterMap.2 ⟨member, listed, made⟩

/-- Edits of fields that a document sets are lost when it is loaded. -/
theorem overlay_editAll {edits : List (String × Edit)}
    (set : ∀ e ∈ edits, document.Sets e.1 e.2.field) :
    document.overlay (store.editAll edits) = document.overlay store := by
  rw [overlay, overlay, document.edits_congr (store.identifiers_editAll edits),
    ← Store.editAll_append]
  apply Store.editAll_congr
  intro id there field
  rw [Store.lastEdit?_append]
  -- an edit before the load either is of another cell, or an edit of the load comes after it
  by_cases touched : ∃ e ∈ edits, cell e = (id, field)
  · obtain ⟨e, he, here⟩ := touched
    obtain ⟨rfl, rfl⟩ := Prod.mk.inj here
    obtain ⟨later, listed, same⟩ := (set e he).edited there
    cases last : lastEdit? (document.edits store) (e.1, e.2.field) with
    | none => exact absurd same (Store.lastEdit?_eq_none_iff.1 last later listed)
    | some edit => rfl
  · have untouched : ∀ e ∈ edits, cell e ≠ (id, field) := fun e he here => touched ⟨e, he, here⟩
    rw [Store.lastEdit?_eq_none_iff.2 untouched, Option.or_none]

/-- A second load makes the edits of the first one again. -/
theorem overlay_again (document : Document) (store : Store) :
    document.overlay (document.overlay store) = document.overlay store := by
  have same := document.edits_congr (identifiers_overlay document store)
  rw [overlay, same]
  exact store.editAll_again (document.edits store)

end Document

namespace Session

open Program (reportAll)

/-- **Loading is idempotent.** A document is laid over the store of a session, key by key, and then
once more. The second load reports the same and counts the same, leaves the store as it is, and adds
the same notes in the same order once more. Edits of fields that the document sets are lost when it
is loaded: it makes of the store what it would have made of it without them, be it loaded for the
first time or again. -/
theorem load_again (document : Document) (session : Session) :
    let summary := document.summary session.store
    let notes := document.notes session.store
    (∃ reports loaded again,
      (overlayInPlace document).on session =
        reportAll reports >>= (fun _ => pure (.ok summary, loaded)) ∧
      (overlayInPlace document).on loaded =
        reportAll reports >>= (fun _ => pure (.ok summary, again)) ∧
      loaded.store = document.overlay session.store ∧
      again.store = loaded.store ∧
      loaded.notes.lines = session.notes.lines ++ notes ∧
      again.notes.lines = loaded.notes.lines ++ notes) ∧
    ∀ edits, (∀ e ∈ edits, document.Sets e.1 e.2.field) →
      document.overlay (session.store.editAll edits) = document.overlay session.store ∧
      document.overlay ((document.overlay session.store).editAll edits) =
        document.overlay session.store := by
  intro summary notes
  have same := document.identifiers_overlay session.store
  refine ⟨?_, fun edits set => ?_⟩
  · have first := overlay_in_place document session
    have second := overlay_in_place document (session.overlaid document)
    refine ⟨_, _, (session.overlaid document).overlaid document, first, ?_, rfl,
      document.overlay_again session.store, rfl, ?_⟩
    · have judged := document.judge_congr same
      have counted := document.summary_congr same
      rw [second]
      simp only [overlaid, judged, counted]
      rfl
    · have told := document.notes_congr same
      simp only [overlaid, told]
      rfl
  · constructor
    · exact Document.overlay_editAll set
    · rw [Document.overlay_editAll set, document.overlay_again]

/-- A session with entries whose identifiers begin one another. -/
def nestedSession : Session := { new {} with store := Store.ofCalls Document.nestedCalls }

/-- Edits of a field that a document sets by two names. -/
def passingEdits : List (String × Edit) := [("ui_a", .event .delete), ("ui_a", .event .key)]

theorem load_again_aliased :
    (∀ e ∈ passingEdits, Document.aliasedDocument.Sets e.1 e.2.field) ∧
    Document.aliasedDocument.overlay
        ((Document.aliasedDocument.overlay nestedSession.store).editAll passingEdits) =
      Document.aliasedDocument.overlay nestedSession.store := by
  have set : Document.aliasedDocument.Sets "ui_a" .event := by
    have target : Document.target? "ui_a_evt" = some ("ui_a", .event) :=
      Document.target?_eq_some_iff.2 ⟨by decide, "evt", by decide, rfl⟩
    exact ⟨("ui_a_evt", .string EventCode.clicked.tag), .tail _ (.head _), target, _,
      .event .clicked⟩
  have all : ∀ e ∈ passingEdits, Document.aliasedDocument.Sets e.1 e.2.field :=
    List.forall_mem_cons.2 ⟨set, List.forall_mem_cons.2 ⟨set, List.forall_mem_nil _⟩⟩
  exact ⟨all, ((load_again Document.aliasedDocument nestedSession).2 passingEdits all).2⟩

end Session

end WidgetBindings
