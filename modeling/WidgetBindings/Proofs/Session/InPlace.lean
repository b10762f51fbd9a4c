import WidgetBindings.Proofs.Build.Counts
import WidgetBindings.Proofs.Overlay.Accounting
import WidgetBindings.Proofs.Session.Work

/-!
# Commands that change a session in place

The commands, put together from stages that each change the session that is in use: each note, each
count and each edit is made at the moment at which it comes up.

* `build_in_place`: a scan adds its notes to the log while it builds a store on the side;
* `overlay_in_place`: a document is laid over the store that is in use, key by key;
* `perform_eq_obey`: in place or not, every command asks for the same and comes to the same.
-/

namespace WidgetBindings

namespace Notes

theorem append_nil (notes : Notes) : notes.append [] = notes := by simp [Notes.append]

theorem append_append (notes : Notes) (more yet : List String) :
    (notes.append more).append yet = notes.append (more ++ yet) := by simp [Notes.append]

end Notes

namespace Remark

/-- The identifiers that count as remarked on after remarks. -/
def heard (seen : List String) (rs : List Remark) : List String :=
  (rs.filterMap staleIdentifier?).reverse ++ seen

theorem once_append_heard (seen : List String) (rs more : List Remark) :
    once seen (rs ++ more) = once seen rs ++ once (heard seen rs) more := by
  induction rs generalizing seen with
  | nil => rfl
  | cons r rs ih =>
    cases r with
    | unsupported key value =>
      simp only [List.cons_append, once, ih]
      rfl
    | stale id =>
      rw [List.cons_append, once_cons_stale, once_cons_stale, ih, List.append_assoc]
      simp [heard, staleIdentifier?]

end Remark

namespace Session

open Program (report reportAll reportAll_append)
open Work

/-! ## Scanning -/

/-- The store and the counts that a scan builds on the side. -/
structure Finds where
  store : Store
  summary : ScanSummary

namespace Finds

def ofBuild (build : Build) : Finds := ⟨build.store, build.summary⟩

/-- Enters an accepted declaration, or counts it as a repetition. -/
def enter (finds : Finds) (declaration : Declaration) (entry : Entry) : Work SessionError Finds :=
  match finds.store.insert entry with
  | .ok store => pure { finds with store }
  | .error _ => do
    asking (report (.repeatedSymbol declaration))
    pure { finds with summary.duplicates := finds.summary.duplicates + 1 }

/-- Takes in one declaration. -/
def add (rules : Classifier) (finds : Finds) (declaration : Declaration) :
    Work SessionError Finds :=
  let finds := { finds with summary.declarations := finds.summary.declarations + 1 }
  match rules.classify declaration.identifier with
  | .mapped entry =>
    { finds with summary.mapped := finds.summary.mapped + 1 }.enter declaration entry
  | .fallback entry =>
    { finds with summary.fallback := finds.summary.fallback + 1 }.enter declaration entry
  | .rejected strippedName => do
    asking (report (.unmappedSymbol declaration))
    note s!"'{strippedName}' produce/consume mapping not supported"
    pure { finds with summary.rejected := finds.summary.rejected + 1 }

end Finds

/-- Scans the header of a session. Between reading the header and taking in its declarations the
pattern for the object type is made. This stage is left out, since no object type is assumed to be
so long that it fails; nothing has been changed in the session before it. -/
def rescanInPlace : Work SessionError ScanSummary := do
  let session ← get
  Work.within (.scan session.project.headerPath) do
    let text ← trying SessionError.header (Header.read session.project.headerPath)
    let finds ← (Declaration.scan session.project.objectType text).foldlM
      (Finds.add session.rules) (.ofBuild .empty)
    asking (report (.scanComplete finds.summary))
    modify fun session => { session with store := finds.store, lastScan := finds.summary }
    pure finds.summary

/-- The report on a declaration that did not become an entry. -/
def incidentReport : Incident → Log.Report
  | .rejected declaration _ => .unmappedSymbol declaration
  | .repeated declaration => .repeatedSymbol declaration

theorem ofBuild_eq (build : Build) : Log.Report.ofBuild build =
    build.incidents.map incidentReport ++ [.scanComplete build.summary] := by
  refine congrArg (· ++ _) (List.map_congr_left fun i _ => ?_)
  cases i <;> rfl

variable {session : Session}

/-- The session with notes on what did not become an entry. -/
def noting (session : Session) (incidents : List Incident) : Session :=
  { session with notes := session.notes.append (incidents.filterMap Incident.note?) }

theorem noting_of_silent {incidents : List Incident}
    (silent : incidents.filterMap Incident.note? = []) : session.noting incidents = session := by
  rw [noting, silent, Notes.append_nil]

/-- Taking in a declaration tells at once of what is new in the build. -/
theorem add_in_place (rules : Classifier) (build : Build) (d : Declaration) (session : Session) :
    ∃ new, (build.add rules d).incidents = build.incidents ++ new ∧
      (Finds.add rules (.ofBuild build) d).on session =
        reportAll (new.map incidentReport) >>= fun _ =>
          pure (.ok (.ofBuild (build.add rules d)), session.noting new) := by
  have enters (build : Build) (e : Entry) :
      ∃ new, (build.enter d e).incidents = build.incidents ++ new ∧
        ((Finds.ofBuild build).enter d e).on session =
          reportAll (new.map incidentReport) >>= fun _ =>
            pure (.ok (.ofBuild (build.enter d e)), session.noting new) := by
    unfold Build.enter Finds.enter
    cases h : build.store.insert e with
    | ok store =>
      refine ⟨[], (List.append_nil _).symm, ?_⟩
      rw [noting_of_silent rfl]
      simp only [Finds.ofBuild, h]
      rfl
    | error r =>
      refine ⟨[.repeated d], rfl, ?_⟩
      rw [noting_of_silent rfl]
      simp only [Finds.ofBuild, h]
      rfl
  unfold Build.add Finds.add
  cases outcome : rules.classify d.identifier with
  | mapped e => exact enters _ e
  | fallback e => exact enters _ e
  | rejected name => exact ⟨[.rejected d name], rfl, rfl⟩

theorem noting_append (session : Session) (incidents more : List Incident) :
    (session.noting incidents).noting more = session.noting (incidents ++ more) := by
  simp only [noting, Notes.append_append, List.filterMap_append]

/-- While it builds a store on the side, a scan adds a note to the log for every symbol that is
turned down. -/
theorem build_in_place (rules : Classifier) (ds : List Declaration) (build : Build)
    (session : Session) :
    ∃ new, (ds.foldl (Build.add rules) build).incidents = build.incidents ++ new ∧
      (ds.foldlM (Finds.add rules) (.ofBuild build)).on session =
        reportAll (new.map incidentReport) >>= fun _ =>
          pure (.ok (.ofBuild (ds.foldl (Build.add rules) build)), session.noting new) := by
  induction ds generalizing build session with
  | nil => exact ⟨[], (List.append_nil _).symm, by rw [noting_of_silent rfl]; rfl⟩
  | cons d ds ih =>
    obtain ⟨new, grown, first⟩ := add_in_place rules build d session
    obtain ⟨more, built, rest⟩ := ih (build.add rules d) (session.noting new)
    refine ⟨new ++ more, by rw [List.foldl_cons, built, grown, List.append_assoc], ?_⟩
    simp only [List.foldlM_cons, List.foldl_cons, on_bind, first, LawfulMonad.bind_assoc, pure_bind,
      proceed_ok, rest, noting_append, List.map_append, reportAll_append]

/-- The session that a command has led to, or the session as it was if it has failed. -/
def after (session : Session) : Except SessionError Session → Session
  | .ok left => left
  | .error _ => session

theorem rescan_in_place (session : Session) : rescanInPlace.on session =
    (fun outcome => (outcome.map lastScan, session.after outcome)) <$> session.rescan := by
  simp only [rescanInPlace, rescan, on_bind, on_get, pure_bind, proceed_ok, on_within, on_trying,
    Program.map_within, map_bind, LawfulMonad.bind_assoc]
  refine congrArg (Program.within _) (congrArg (Header.read _ >>= ·) (funext fun read => ?_))
  cases read with
  | error e => rfl
  | ok text =>
    obtain ⟨new, rfl, built⟩ := build_in_place session.rules
      (Declaration.scan session.project.objectType text) .empty session
    simp only [Except.mapError, proceed_ok, on_bind, built, ofBuild_eq, reportAll_append, map_bind,
      LawfulMonad.bind_assoc, pure_bind, on_asking]
    rfl

/-! ## Loading -/

/-- What a load has come to so far, and the identifiers that it has remarked on. -/
structure Tally where
  seen : List String
  summary : LoadSummary

namespace Tally

def empty : Tally := ⟨[], ⟨0, [], [], 0⟩⟩

/-- Remarks on an identifier that has no entry, unless it was remarked on before. -/
def lose (tally : Tally) (identifier : String) : Work DocumentError Tally := do
  let seen := identifier :: tally.seen
  if identifier ∈ tally.seen then pure { tally with seen }
  else
    note s!"{identifier} not in current code, skipping"
    pure { tally with
      seen
      summary.staleIdentifiers := tally.summary.staleIdentifiers ++ [identifier] }

/-- Looks at an identifier that the document lists. -/
def visit (tally : Tally) (identifier : String) : Work DocumentError Tally := do
  let session ← get
  if session.store.contains identifier then pure tally else tally.lose identifier

/-- Lays one key over the store that is in use. -/
def lay (tally : Tally) (member : String × Json) : Work DocumentError Tally := do
  let session ← get
  match Verdict.of session.store.contains member.1 member.2 with
  | .withoutSuffix =>
    asking (report (.keyWithoutSuffix member.1))
    pure { tally with summary.unknownKeys := tally.summary.unknownKeys + 1 }
  | .unknownField =>
    asking (report (.keyWithUnknownField member.1))
    pure { tally with summary.unknownKeys := tally.summary.unknownKeys + 1 }
  | .stale identifier => tally.lose identifier
  | .applied identifier edit =>
    match session.store.edit identifier edit with
    | .ok store =>
      modify fun session => { session with store }
      pure { tally with summary.applied := tally.summary.applied + 1 }
    | .error _ => pure tally
  | .rejected =>
    asking (report (.unsupportedValue member.1 member.2.compact))
    note s!"{member.1} has unsupported value {member.2.compact}, skipping"
    pure { tally with summary.rejectedKeys := tally.summary.rejectedKeys ++ [member.1] }

end Tally

/-- Lays a document over the store of a session, the identifiers first. -/
def overlayInPlace (document : Document) : Work DocumentError LoadSummary := do
  let tally ← document.identifiers.foldlM Tally.visit .empty
  let tally ← document.values.foldlM Tally.lay tally
  pure tally.summary

/-- Reads the document at a path and lays it over the store, if there is one. -/
def loadStoreInPlace (path : String) : Work DocumentError LoadStatus := do
  match ← trying id (Document.load? path) with
  | none =>
    asking (report (.documentMissing path))
    pure .missing
  | some document =>
    let summary ← overlayInPlace document
    asking (report (.documentLoaded path summary))
    pure (.loaded summary)

/-- What a load reports when it could not use the document. -/
def LoadStatus.ofError : DocumentError → LoadStatus
  | .malformed _ _ => .unparsable
  | .unreadable _ _ | .unwritten _ => .unreadable

/-- Loads the saved document. An error is reported, and the session stays as the error has found
it. -/
def loadInPlace (session : Session) : Program (LoadStatus × Session) := do
  match ← (loadStoreInPlace session.project.documentPath).on session with
  | (.ok status, left) => pure (status, left)
  | (.error e, left) =>
    report (.documentIgnored e.message e.hint)
    pure (LoadStatus.ofError e, left)

/-- What some identifiers or keys of a document come to. -/
structure Portion where
  edits : List (String × Edit)
  remarks : List Remark
  unknown : Nat
  reports : List Log.Report

namespace Portion

def nothing : Portion := ⟨[], [], 0, []⟩

def append (portion more : Portion) : Portion :=
  ⟨portion.edits ++ more.edits, portion.remarks ++ more.remarks, portion.unknown + more.unknown,
    portion.reports ++ more.reports⟩

/-- What things come to one after the other. -/
def all {α : Type} (of : α → Portion) : List α → Portion
  | [] => nothing
  | a :: rest => (of a).append (all of rest)

/-- What a listed identifier comes to, given which identifiers have entries. -/
def ofIdentifier (present : String → Bool) (identifier : String) : Portion :=
  if present identifier then nothing else { nothing with remarks := [.stale identifier] }

/-- What a key with its value and the verdict on it comes to. -/
def ofJudged (j : Judged) : Portion :=
  ⟨j.verdict.edits?.toList, j.remark?.toList, if j.verdict.isUnknown then 1 else 0,
    (Log.Report.ofJudged? j).toList⟩

/-- What a key with its value comes to, given which identifiers have entries. -/
def ofMember (present : String → Bool) (member : String × Json) : Portion :=
  ofJudged ⟨member.1, member.2, .of present member.1 member.2⟩

end Portion

/-- A tally with what further identifiers or keys come to. -/
def Tally.extended (tally : Tally) (portion : Portion) : Tally :=
  let told := Remark.once tally.seen portion.remarks
  ⟨Remark.heard tally.seen portion.remarks, {
    applied := tally.summary.applied + portion.edits.length
    staleIdentifiers := tally.summary.staleIdentifiers ++ told.filterMap Remark.staleIdentifier?
    rejectedKeys := tally.summary.rejectedKeys ++ told.filterMap Remark.rejectedKey?
    unknownKeys := tally.summary.unknownKeys + portion.unknown }⟩

/-- A session over which a part of a document has been laid. -/
def laid (session : Session) (seen : List String) (portion : Portion) : Session :=
  { session with
    store := session.store.editAll portion.edits
    notes := session.notes.append ((Remark.once seen portion.remarks).map Remark.note) }

/-- Reporting on a part of a document that has been laid over a session. -/
def laying (tally : Tally) (session : Session) (portion : Portion) :
    Program (Except DocumentError Tally × Session) := do
  reportAll portion.reports
  pure (.ok (tally.extended portion), session.laid tally.seen portion)

theorem extended_append (tally : Tally) (portion more : Portion) :
    (tally.extended portion).extended more = tally.extended (portion.append more) := by
  simp only [Tally.extended, Portion.append, Remark.once_append_heard, List.filterMap_append,
    List.append_assoc, List.length_append, Nat.add_assoc, Remark.heard, List.reverse_append]

theorem laid_append (session : Session) (tally : Tally) (portion more : Portion) :
    (session.laid tally.seen portion).laid (tally.extended portion).seen more =
      session.laid tally.seen (portion.append more) := by
  simp only [laid, Tally.extended, Portion.append, Remark.once_append_heard, Store.editAll,
    List.foldl_append, List.map_append, Notes.append_append]

theorem contains_laid (session : Session) (seen : List String) (portion : Portion) :
    (session.laid seen portion).store.contains = session.store.contains := by
  funext id
  rw [Bool.eq_iff_iff, Store.contains_iff, Store.contains_iff, laid, Store.identifiers_editAll]

theorem eq_laying {program : Program (Except DocumentError Tally × Session)}
    {tally reached : Tally} {session left : Session} {portion : Portion}
    (reports : program = reportAll portion.reports >>= fun _ => pure (.ok reached, left))
    (tallied : tally.extended portion = reached)
    (changed : session.laid tally.seen portion = left) :
    program = laying tally session portion := by
  subst tallied changed
  exact reports

theorem laying_nothing (tally : Tally) (session : Session) :
    pure (.ok tally, session) = laying tally session .nothing := by
  refine eq_laying rfl ?_ ?_
  · simp [Tally.extended, Portion.nothing, Remark.once, Remark.heard]
  · simp [laid, Portion.nothing, Remark.once, Store.editAll, Notes.append_nil]

/-- A loop comes to what its rounds come to. Which identifiers have entries is the same in each
round, although the store that is in use changes. -/
theorem foldlM_lays {α : Type} {round : Tally → α → Work DocumentError Tally}
    {of : (String → Bool) → α → Portion}
    (lays : ∀ tally a session,
      (round tally a).on session = laying tally session (of session.store.contains a))
    (as : List α) (tally : Tally) (session : Session) :
    (as.foldlM round tally).on session =
      laying tally session (.all (of session.store.contains) as) := by
  induction as generalizing tally session with
  | nil => exact laying_nothing tally session
  | cons a as ih =>
    rw [List.foldlM_cons, on_bind, lays]
    simp only [laying, LawfulMonad.bind_assoc, pure_bind, proceed_ok, ih, contains_laid,
      Portion.all, laid_append, extended_append]
    simp only [Portion.append, reportAll_append, LawfulMonad.bind_assoc]

theorem lose_in_place (tally : Tally) (identifier : String) (session : Session) :
    (tally.lose identifier).on session =
      laying tally session { Portion.nothing with remarks := [.stale identifier] } := by
  unfold Tally.lose
  by_cases known : identifier ∈ tally.seen
  · rw [if_pos known]
    refine eq_laying rfl ?_ ?_
    · simp [Tally.extended, Portion.nothing, Remark.once, Remark.heard, known,
        Remark.staleIdentifier?]
    · simp [laid, Portion.nothing, Remark.once, Store.editAll, Notes.append_nil, known]
  · rw [if_neg known]
    refine eq_laying rfl ?_ ?_
    · simp [Tally.extended, Portion.nothing, Remark.once, Remark.heard, known,
        Remark.staleIdentifier?, Remark.rejectedKey?]
    · simp [laid, Portion.nothing, Remark.once, Store.editAll, known, Remark.note]

theorem visit_in_place (tally : Tally) (identifier : String) (session : Session) :
    (tally.visit identifier).on session =
      laying tally session (.ofIdentifier session.store.contains identifier) := by
  cases there : session.store.contains identifier with
  | true => simp [Tally.visit, Portion.ofIdentifier, there, laying_nothing]
  | false => simp [Tally.visit, Portion.ofIdentifier, there, lose_in_place]

theorem lay_in_place (tally : Tally) (member : String × Json) (session : Session) :
    (tally.lay member).on session =
      laying tally session (.ofMember session.store.contains member) := by
  unfold Tally.lay Portion.ofMember Portion.ofJudged
  simp only [on_bind, on_get, pure_bind, proceed_ok]
  cases verdict : Verdict.of session.store.contains member.1 member.2 with
  | withoutSuffix | unknownField =>
    refine eq_laying rfl ?_ ?_
    · simp [Tally.extended, Remark.once, Remark.heard, Judged.remark?, Verdict.edits?,
        Verdict.isUnknown]
    · simp [laid, Remark.once, Store.editAll, Notes.append_nil, Judged.remark?, Verdict.edits?]
  | stale identifier => exact lose_in_place tally identifier session
  | applied identifier edit =>
    have there := (Verdict.of_eq_applied_iff.1 verdict).1
    cases set : session.store.edit identifier edit with
    | error r => exact absurd ((Store.contains_iff _ _).1 there) (Store.edit_eq_error_iff.1 set).1
    | ok store =>
      simp only [set]
      refine eq_laying rfl ?_ ?_
      · simp [Tally.extended, Remark.once, Remark.heard, Judged.remark?, Verdict.edits?,
        Verdict.isUnknown]
      · simp [laid, Remark.once, Store.editAll, Notes.append_nil, Judged.remark?, Verdict.edits?,
          set]
  | rejected =>
    refine eq_laying rfl ?_ ?_
    · simp [Tally.extended, Remark.once, Remark.heard, Judged.remark?, Verdict.edits?,
        Verdict.isUnknown, Remark.staleIdentifier?, Remark.rejectedKey?]
    · simp [laid, Remark.once, Store.editAll, Judged.remark?, Verdict.edits?, Remark.note]

theorem all_ofIdentifier (present : String → Bool) (ids : List String) :
    Portion.all (.ofIdentifier present) ids =
      ⟨[], (ids.filter fun id => !present id).map .stale, 0, []⟩ := by
  induction ids with
  | nil => rfl
  | cons id ids ih =>
    cases there : present id <;>
      simp [Portion.all, ih, Portion.ofIdentifier, Portion.append, Portion.nothing, there]

theorem all_ofJudged (js : List Judged) :
    Portion.all .ofJudged js =
      ⟨js.filterMap fun j => j.verdict.edits?, js.filterMap Judged.remark?,
        js.countP fun j => j.verdict.isUnknown, js.filterMap Log.Report.ofJudged?⟩ := by
  induction js with
  | nil => rfl
  | cons j js ih =>
    simp only [Portion.all, ih, Portion.ofJudged, Portion.append, List.filterMap_eq_flatMap_toList,
      List.flatMap_cons, List.countP_cons, Nat.add_comm]

theorem all_ofMember (document : Document) (store : Store) :
    Portion.all (.ofMember store.contains) document.values =
      .all .ofJudged (document.judge store) := by
  unfold Document.judge
  induction document.values with
  | nil => rfl
  | cons member rest ih =>
    rw [List.map_cons, Portion.all, Portion.all, ih]
    rfl

/-- What the listed identifiers and the keys of a document come to together. -/
def Portion.whole (document : Document) (store : Store) : Portion :=
  (all (.ofIdentifier store.contains) document.identifiers).append
    (all (.ofMember store.contains) document.values)

theorem summary_whole (document : Document) (store : Store) :
    (Tally.empty.extended (.whole document store)).summary = document.summary store := by
  simp [Portion.whole, all_ofIdentifier, all_ofMember, all_ofJudged, Portion.append, Tally.extended,
    Tally.empty, Document.summary, Document.remarks, Document.edits]

theorem laid_whole (document : Document) (session : Session) :
    session.laid [] (.whole document session.store) = session.overlaid document := by
  simp [Portion.whole, all_ofIdentifier, all_ofMember, all_ofJudged, Portion.append, laid, overlaid,
    Document.overlay, Document.notes, Document.remarks, Document.edits]

/-- A document is laid over the store that is in use, with each note at its key. -/
theorem overlay_in_place (document : Document) (session : Session) :
    (overlayInPlace document).on session =
      reportAll ((document.judge session.store).filterMap Log.Report.ofJudged?) >>= fun _ =>
        pure (.ok (document.summary session.store), session.overlaid document) := by
  have silent : (Portion.all (.ofIdentifier session.store.contains)
      document.identifiers).reports = [] := by rw [all_ofIdentifier]
  have told : (Portion.all (.ofMember session.store.contains) document.values).reports =
      (document.judge session.store).filterMap Log.Report.ofJudged? := by
    rw [all_ofMember, all_ofJudged]
  rw [← summary_whole, ← laid_whole]
  simp only [overlayInPlace, on_bind, foldlM_lays visit_in_place, foldlM_lays lay_in_place, laying,
    LawfulMonad.bind_assoc, pure_bind, proceed_ok, contains_laid, laid_append, extended_append,
    on_pure, silent, told]
  rfl

theorem load_in_place (session : Session) :
    loadInPlace session = (fun loaded => (loaded.2, loaded.1)) <$> session.load := by
  simp only [loadInPlace, load, loadStoreInPlace, Document.loadFor, on_bind, on_trying, map_bind,
    LawfulMonad.bind_assoc, pure_bind]
  refine congrArg (Document.load? _ >>= ·) (funext fun read => ?_)
  cases read with
  | error e => cases e <;> rfl
  | ok found =>
    cases found with
    | none => rfl
    | some document =>
      simp only [Except.mapError, proceed_ok, on_bind, overlay_in_place, LawfulMonad.bind_assoc,
        pure_bind, on_asking, Log.Report.ofLoad, reportAll_append]
      rfl

/-! ## Editing -/

/-- Sets one field of one entry of the store that is in use. -/
def applyInPlace (identifier : String) (edit : Edit) : Work SessionError Unit := do
  let session ← get
  match session.store.edit identifier edit with
  | .error refusal => throw (.edit refusal)
  | .ok store =>
    modify fun session => { session with store }
    asking (report (.fieldUpdated identifier edit.field))

/-- Makes a change that an operator asks for. -/
def changeInPlace : Change → Work SessionError Unit
  | .edit identifier field value => do
    let field ← trying SessionError.edit (pure (Field.ofName field))
    let edit ← trying SessionError.edit (pure (Edit.parse field value))
    applyInPlace identifier edit
  | .apply identifier edit => applyInPlace identifier edit

theorem apply_in_place (session : Session) (identifier : String) (edit : Edit) :
    (applyInPlace identifier edit).on session =
      (fun outcome => (outcome.map fun _ => (), session.after outcome)) <$>
        session.apply identifier edit := by
  simp only [applyInPlace, on_bind, on_get, pure_bind, proceed_ok, apply, edited]
  cases set : session.store.edit identifier edit with
  | error refusal => rfl
  | ok store => rfl

theorem change_in_place (session : Session) (change : Change) :
    (changeInPlace change).on session =
      (fun outcome => (outcome.map fun _ => (), session.after outcome)) <$>
        session.change change := by
  cases change with
  | apply identifier edit => exact apply_in_place session identifier edit
  | edit identifier field value =>
    simp only [changeInPlace, on_bind, on_trying, pure_bind, Session.change, Session.edit,
      parseEdit]
    cases named : Field.ofName field with
    | error refusal => rfl
    | ok field =>
      simp only [Except.mapError, proceed_ok, bind, Except.bind]
      cases parsed : Edit.parse field value with
      | error refusal => rfl
      | ok edit => exact apply_in_place session identifier edit

/-! ## Every command -/

/-- Carries out a command in place. Saving only looks at the session. -/
def perform (session : Session) : Command → Program (Reply × Session)
  | .rescan => (fun done => (.scanned done.1, done.2)) <$> rescanInPlace.on session
  | .load => (fun done => (.loaded done.1, done.2)) <$> loadInPlace session
  | .change change => (fun done => (.changed done.1, done.2)) <$> (changeInPlace change).on session
  | .save options => (fun outcome => (.saved outcome, session)) <$> session.save options

/-- In place or not, a command asks its surroundings for the same, and comes to the same. -/
theorem perform_eq_obey (session : Session) (command : Command) :
    session.perform command = session.obey command := by
  cases command with
  | rescan =>
    rw [perform, rescan_in_place, ← comp_map, map_eq_pure_bind]
    refine congrArg (session.rescan >>= ·) (funext fun outcome => ?_)
    cases outcome <;> rfl
  | load =>
    rw [perform, load_in_place, ← comp_map, map_eq_pure_bind]
    rfl
  | change change =>
    rw [perform, change_in_place, ← comp_map, map_eq_pure_bind]
    refine congrArg (session.change change >>= ·) (funext fun outcome => ?_)
    cases outcome <;> rfl
  | save options => rw [perform, map_eq_pure_bind]; rfl

end Session

end WidgetBindings
