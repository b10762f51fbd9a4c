import WidgetBindings.Proofs.Disk.Replacing
import WidgetBindings.Proofs.Document.Text
import WidgetBindings.Proofs.Project.Outputs
import WidgetBindings.Proofs.Session.Invariant
import WidgetBindings.Proofs.Session.Opening

/-!
# Saving and opening again

* `rescan_run`, `load_run`, `changeAll_run`, `save_run_iff`: what the commands come to on a disk;
* `saved_of_save`: what a disk is like after a save, and that the same save leaves it as it is;
* `reopen_saved`: a saved session comes back from its files.
-/

namespace WidgetBindings.Session

open Program

/-- Opens a project with a table: a new session in which the header has been scanned and the
document has been loaded, and what came of the load. -/
def reopen (project : Project) (table : PrefixTable) :
    Program (Except SessionError (Session × LoadStatus)) := do
  match ← (new project table).rescan with
  | .error e => pure (.error e)
  | .ok session => pure (.ok (← session.load))

/-- Makes changes one after the other. Those that are refused are left out. -/
def changeAll (session : Session) : List Change → Program Session
  | [] => pure session
  | change :: rest => do
    let outcome ← session.change change
    (session.settle outcome).2.changeAll rest

/-- Opens a project, makes changes and saves. -/
def work (project : Project) (table : PrefixTable) (changes : List Change)
    (options : Source.Options) : Program (Except SessionError (Session × SaveReport)) := do
  match ← reopen project table with
  | .error e => pure (.error e)
  | .ok (session, _) =>
    let session ← session.changeAll changes
    match ← session.save options with
    | .error e => pure (.error e)
    | .ok report => pure (.ok (session, report))

variable {project : Project} {table : PrefixTable} {disk after : Disk}

/-! ## Commands on a disk -/

theorem rescan_run (session : Session) (disk : Disk) : session.rescan.run disk =
    (match Header.decode session.project.headerPath (disk.read session.project.headerPath) with
      | .error e => .error (.header e)
      | .ok text => .ok (session.scanned text), disk) := by
  rw [← runOn_none, rescan_runOn]
  cases Header.decode session.project.headerPath (disk.read session.project.headerPath) <;> rfl

/-- A load touches neither the disk nor the identifiers. -/
theorem load_run (session : Session) (disk : Disk) :
    ∃ left status, session.load.run disk = ((left, status), disk) ∧
      left.project = session.project ∧ left.store.identifiers = session.store.identifiers := by
  obtain ⟨left, status, load, project, store⟩ := load_runOn none session disk
  rw [runOn_none] at load
  exact ⟨left, status, load, project, by rw [store, identifiers_elim_overlay]⟩

theorem load_run_of_read {session : Session} {bytes : List UInt8} {document : Document}
    (held : disk.read session.project.documentPath = .ok bytes)
    (decoded : Document.ofBytes bytes = .ok document) :
    session.load.run disk =
      ((session.overlaid document, .loaded (document.summary session.store)), disk) := by
  simp [load, Document.loadFor, Document.load?, held, Document.decode, decoded]

theorem change_run (session : Session) (change : Change) (disk : Disk) :
    ((session.change change).run disk).2 = disk := by
  have apply (identifier : String) (edit : Edit) :
      ((session.apply identifier edit).run disk).2 = disk := by
    rw [Session.apply]
    cases session.edited identifier edit <;> simp
  cases change with
  | apply identifier edit => exact apply identifier edit
  | edit identifier field value =>
    rw [Session.change, Session.edit]
    cases parseEdit field value with
    | error refusal => rfl
    | ok edit => exact apply identifier edit

/-- Changes touch neither the disk nor the identifiers. -/
theorem changeAll_run (session : Session) (changes : List Change) (disk : Disk) :
    ∃ left, (session.changeAll changes).run disk = (left, disk) ∧
      left.project = session.project ∧ left.store.identifiers = session.store.identifiers := by
  induction changes generalizing session with
  | nil => exact ⟨session, rfl, rfl, rfl⟩
  | cons change rest ih =>
    rw [changeAll, run_bind, change_run]
    obtain ⟨identifier, edit, store, ok, same⟩ | ⟨e, same⟩ :=
      mayReturn_change (mayReturn_run (session.change change) disk)
    · obtain ⟨left, run, kept, identifiers⟩ := ih { session with store }
      rw [same]
      exact ⟨left, run, kept, identifiers.trans (Store.identifiers_edit ok)⟩
    · rw [same]
      exact ih session

theorem save_run_iff {session : Session} {options : Source.Options} {report : SaveReport} :
    (session.save options).run disk = (.ok report, after) ↔
      report = ⟨session.project.documentPath, session.project.sourcePath,
        Source.text session.store options⟩ ∧
      ∃ between,
        (replaceFile session.project.documentPath
          (Text.toBytes (Document.ofStore session.store).text)).run disk = (.ok (), between) ∧
        (replaceFile session.project.sourcePath
          (Text.toBytes (Source.text session.store options))).run between = (.ok (), after) := by
  simp only [save, Document.save, Source.save, run_bind]
  cases first : (replaceFile session.project.documentPath
    (Text.toBytes (Document.ofStore session.store).text)).run disk with
  | mk outcome between =>
    cases outcome with
    | error e => simp
    | ok _ =>
      cases second : (replaceFile session.project.sourcePath
        (Text.toBytes (Source.text session.store options))).run between with
      | mk outcome last =>
        cases outcome with
        | error e => simp [second]
        | ok _ => simp [second, eq_comm]

/-- After a save the document and the source are in their places, and nothing else has changed that
was there before. -/
theorem saved_of_save {session : Session} {options : Source.Options} {report : SaveReport}
    (plain : ∀ p ∈ session.project.outputPaths, ".." ∉ Disk.namesOf p)
    (h : (session.save options).run disk = (.ok report, after)) :
    Disk.Keeps (session.project.outputPaths.map disk.place) disk after ∧
      Replaced after session.project.documentPath
        (Text.toBytes (Document.ofStore session.store).text) ∧
      Replaced after session.project.sourcePath
        (Text.toBytes (Source.text session.store options)) := by
  obtain ⟨_, between, first, second⟩ := save_run_iff.1 h
  obtain ⟨documents, sources, across⟩ :=
    List.pairwise_append.1 (session.project.pairwise_place disk)
  have plainDocument := fun p hp => plain p (List.mem_append_left _ hp)
  have plainSource := fun p hp => plain p (List.mem_append_right _ hp)
  have ⟨keeps, document⟩ := replaced_of_run plainDocument
    (List.rel_of_pairwise_cons documents (List.mem_singleton_self _)).symm first
  have further := replaced_of_run plainSource (by
    rw [keeps.place_eq, keeps.place_eq]
    exact (List.rel_of_pairwise_cons sources (List.mem_singleton_self _)).symm) second
  have still := document.other (session.project.parent?_sourcePath) plainSource
    (fun p hp q hq => by
      rw [keeps.place_eq, keeps.place_eq]
      exact across q hq p hp) second
  have places : (Path.written session.project.sourcePath).map between.place =
      (Path.written session.project.sourcePath).map disk.place :=
    List.map_congr_left fun p _ => keeps.place_eq p
  refine ⟨?_, still, further.2⟩
  rw [Project.outputPaths, List.map_append, ← places]
  exact keeps.append further.1

theorem reopen_run (project : Project) (table : PrefixTable) (disk : Disk) :
    (reopen project table).run disk =
      (match Header.decode project.headerPath (disk.read project.headerPath) with
        | .error e => .error (.header e)
        | .ok text => .ok (((new project table).scanned text).load.run disk).1, disk) := by
  have scan := rescan_run (new project table) disk
  simp only [new] at scan
  cases decoded : Header.decode project.headerPath (disk.read project.headerPath) with
  | error e => simp [reopen, new, scan, decoded]
  | ok text =>
    obtain ⟨left, status, loaded, _⟩ := load_run ((new project table).scanned text) disk
    simp only [new] at loaded
    simp [reopen, new, scan, decoded, loaded]

/-- A session that has been worked on and saved holds what was found in the header. -/
theorem work_run {changes : List Change} {options : Source.Options} {session : Session}
    {report : SaveReport}
    (worked : (work project table changes options).run disk = (.ok (session, report), after)) :
    ∃ text, Header.decode project.headerPath (disk.read project.headerPath) = .ok text ∧
      session.project = project ∧
      session.store.identifiers = ((new project table).scanned text).store.identifiers ∧
      (session.save options).run disk = (.ok report, after) := by
  have opened := reopen_run project table disk
  cases decoded : Header.decode project.headerPath (disk.read project.headerPath) with
  | error e => simp [work, opened, decoded] at worked
  | ok text =>
    obtain ⟨first, status, loaded, project_first, ids_first⟩ :=
      load_run ((new project table).scanned text) disk
    obtain ⟨last, changed, project_last, ids_last⟩ := changeAll_run first changes disk
    simp only [decoded, loaded] at opened
    cases saving : (last.save options).run disk with
    | mk outcome final =>
      cases outcome with
      | error e => simp [work, opened, changed, saving] at worked
      | ok r =>
        simp only [work, run_bind, run_pure, opened, changed, saving] at worked
        cases worked
        exact ⟨text, rfl, project_last.trans project_first, ids_last.trans ids_first, saving⟩

/-- **A saved session comes back from its files.** A project is opened, changes are made, and the
session is saved. The header is none of the files that a save writes, and no path goes up by double
dots. Then a new session finds the same header and gets every entry as it was saved; the load finds
nothing stale, turned down or unknown, and leaves no note beside those of the scan. Saving that
session leaves the whole disk as it is. -/
theorem reopen_saved {changes : List Change} {options : Source.Options} {session : Session}
    {report : SaveReport} {saved : Disk}
    (plain : ∀ path ∈ project.headerPath :: project.outputPaths, ".." ∉ Disk.namesOf path)
    (apart : ∀ path ∈ project.outputPaths, disk.place project.headerPath ≠ disk.place path)
    (worked : (work project table changes options).run disk = (.ok (session, report), saved)) :
    ∃ text again,
      (Header.read project.headerPath).run saved = (.ok text, saved) ∧
      (reopen project table).run saved =
        (.ok (again, .loaded ⟨6 * again.store.size, [], [], 0⟩), saved) ∧
      again.store = session.store ∧
      again.notes.lines = ((new project table).buildFrom text).notes ∧
      (again.save options).run saved = (.ok report, saved) := by
  obtain ⟨text, decoded, rfl, identifiers, save⟩ := work_run worked
  have ⟨keeps, document, source⟩ := saved_of_save
    (fun path mem => plain path (List.mem_cons_of_mem _ mem)) save
  -- The header is where it was, so the same identifiers are found in it.
  have header : saved.read session.project.headerPath = disk.read session.project.headerPath := by
    cases held : disk.read session.project.headerPath with
    | error failure =>
      rw [held] at decoded
      cases decoded
    | ok bytes =>
      refine keeps.read (plain _ (List.mem_cons_self ..)) held fun mem => ?_
      obtain ⟨path, output, same⟩ := List.mem_map.1 mem
      exact apart path output same.symm
  have found := (sound_scanned (new session.project table) text).named
  rw [← identifiers] at found
  have named : ∀ e ∈ session.store.toList, e.identifier ≠ "" := by
    intro e he empty
    obtain ⟨c, rest, spelled, _⟩ := found e.identifier (List.mem_map_of_mem he)
    rw [empty] at spelled
    cases spelled
  have loaded : ((new session.project table).scanned text).load.run saved = _ :=
    load_run_of_read (Disk.read_of_opens document.target document.holds)
      (Document.ofBytes_ofStore session.store)
  have store := Document.overlay_ofStore_of_same named identifiers
  refine ⟨text, ((new session.project table).scanned text).overlaid
    (Document.ofStore session.store), ?_, ?_, store, ?_, ?_⟩
  · rw [Header.read, run_bind, run_read, run_pure, header, decoded]
  · rw [reopen_run, header, decoded]
    simp only [loaded, Document.summary_ofStore_of_same named identifiers]
    rw [overlaid, store]
  · rw [overlaid, Document.notes_ofStore_of_same named identifiers]
    simp [Notes.append, scanned, new, Notes.empty]
  · refine save_run_iff.2 ⟨(save_run_iff.1 save).1.trans ?_, saved, ?_, ?_⟩
    · simp only [overlaid, store]
      rfl
    · simp only [overlaid, store]
      exact document.again
    · simp only [overlaid, store]
      exact source.again

/-- A header that declares one symbol twice and one of an unknown kind, beside a file that is no
document. -/
def smallDisk : Disk where
  nodes := (Std.ExtTreeMap.empty.insert ["ui.h"] (.file (Text.toBytes
    "extern lv_obj_t * ui_btn_a;\nextern lv_obj_t *ui_xyz;\nextern lv_obj_t * ui_btn_a;\n"))).insert
      ["ui_binding.json"] (.file (Text.toBytes "\x7b\"variables\": 1\x7d"))
  current := []

/-- A name that needs escapes, a change that is refused, and a flag. -/
def smallChanges : List Change := [
  .edit "ui_btn_a" "name" "\"St\\art\"\n\x01é😀",
  .edit "ui_btn_b" "name" "Stop",
  .apply "ui_btn_a" (.produce true)]

/-- What has been saved, and the notes when the project is opened again. -/
def savedContent : Except SessionError (Session × SaveReport) × Disk → List Entry × List String
  | (.error _, _) => ([], [])
  | (.ok (session, _), saved) =>
    match (reopen {} .standard).run saved with
    | (.error _, _) => ([], [])
    | (.ok (again, _), _) => (session.store.toList, again.notes.lines)

theorem reopen_saved_small :
    ∃ session report saved again,
      (work {} .standard smallChanges {}).run smallDisk = (.ok (session, report), saved) ∧
      (reopen {} .standard).run saved = (.ok (again, .loaded ⟨6, [], [], 0⟩), saved) ∧
      again.store.toList =
        [⟨"ui_btn_a", "\"St\\art\"\n\x01é😀", .button, .clicked, true, false, false⟩] ∧
      again.notes.lines = ["'xyz' produce/consume mapping not supported"] := by
  have outcome : savedContent ((work {} .standard smallChanges {}).run smallDisk) =
      ([⟨"ui_btn_a", "\"St\\art\"\n\x01é😀", .button, .clicked, true, false, false⟩],
        ["'xyz' produce/consume mapping not supported"]) := by
    decide +kernel
  have plain : ∀ path ∈ ({} : Project).headerPath :: Project.outputPaths {},
      ".." ∉ Disk.namesOf path := by
    decide +kernel
  have apart : ∀ path ∈ Project.outputPaths {},
      smallDisk.place ({} : Project).headerPath ≠ smallDisk.place path := by
    decide +kernel
  cases worked : (work {} .standard smallChanges {}).run smallDisk with
  | mk result saved =>
    rw [worked] at outcome
    cases result with
    | error e => cases outcome
    | ok result =>
      obtain ⟨_, again, _, opened, store, _⟩ := reopen_saved plain apart worked
      simp only [savedContent, opened, Prod.mk.injEq, ← store] at outcome
      refine ⟨result.1, result.2, saved, again, rfl, ?_, outcome⟩
      rwa [← again.store.length_toList, outcome.1] at opened

end WidgetBindings.Session
