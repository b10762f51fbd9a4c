import WidgetBindings.Proofs.Build.Selection
import WidgetBindings.Proofs.Session.InPlace

/-!
# What a scan finds

A scan takes in one declaration after the other, with a store and counts on the side and the notes
of the session at hand. `scan_keeps_first_occurrences` says what all three have become in the end.
-/

namespace WidgetBindings.Session

open Declaration (identifiers)

/-- **A scan keeps first occurrences, in order.** The store lists each accepted identifier once,
where it was declared first, with the entry that it is classified as; a lookup finds the entry of an
identifier that was declared and accepted, and nothing else. Every declaration counts under its
outcome, repeated ones included, and the accepted ones that are no first occurrences count as
repetitions. The notes that were there are kept, and one is added for each declaration that is
turned down, in their order. -/
theorem scan_keeps_first_occurrences (rules : Classifier) (declarations : List Declaration) :
    let build := Build.ofDeclarations rules declarations
    let outcome (d : Declaration) := rules.classify d.identifier
    let accepted := (identifiers declarations).filter rules.accepts
    let notes := declarations.filterMap fun d => (outcome d).rejectedName?.map rejectionNote
    build.store.identifiers = accepted.eraseDups ∧
    build.store.identifiers.Nodup ∧
    build.store.toList = accepted.eraseDups.filterMap rules.accepted? ∧
    (∀ id, build.store.get? id =
      if id ∈ identifiers declarations then rules.accepted? id else none) ∧
    build.summary.declarations = declarations.length ∧
    build.summary.mapped = declarations.countP (fun d => (outcome d).isMapped) ∧
    build.summary.fallback = declarations.countP (fun d => (outcome d).isFallback) ∧
    build.summary.rejected = declarations.countP (fun d => (outcome d).isRejected) ∧
    build.summary.duplicates + accepted.eraseDups.length = accepted.length ∧
    build.notes = notes ∧
    ∀ session : Session,
      (declarations.foldlM (Finds.add rules) (.ofBuild .empty)).on session =
        Program.reportAll (build.incidents.map incidentReport) >>= fun _ =>
          pure (.ok (.ofBuild build),
            { session with notes := ⟨session.notes.lines ++ notes⟩ }) := by
  intro build outcome accepted notes
  have selected := Build.selected_ofDeclarations rules declarations
  refine ⟨Build.identifiers_ofDeclarations rules declarations, build.store.nodup_identifiers,
    Build.toList_ofDeclarations rules declarations, Build.get?_ofDeclarations rules declarations,
    (Build.balanced_ofDeclarations rules declarations).met, selected.mapped, selected.fallback,
    selected.rejected, Build.duplicates_ofDeclarations rules declarations, selected.notes,
    fun session => ?_⟩
  obtain ⟨new, told, built⟩ := build_in_place rules declarations .empty session
  have all : build.incidents = new := told
  have noted : session.noting new =
      { session with notes := ⟨session.notes.lines ++ notes⟩ } := by
    have selected_notes : build.notes = notes := selected.notes
    rw [← selected_notes, ← all]
    rfl
  rw [built, noted, ← all]
  rfl

end WidgetBindings.Session
