import WidgetBindings.Proofs.Overlay.Survival
import WidgetBindings.Proofs.Program.Dated
import WidgetBindings.Session

/-!
# Projects that are opened

What comes of the first scan of a header (`rescan_runOn`) and of the load after it (`load_runOn`):
the store of a project as it is opened is scanned from the header, and the saved document is laid
over it unless it is missing or cannot be used (`openProject_runOn_ok`).
-/

namespace WidgetBindings

open Program

/-- The document at a path, unless it is missing or cannot be used. -/
def Disk.document? (disk : Disk) (path : String) : Option Document :=
  (disk.read path).toOption.bind fun bytes => (Document.ofBytes bytes).toOption

theorem Disk.document?_eq (disk : Disk) (path : String) :
    disk.document? path = (Document.decode path (disk.read path)).toOption.join := by
  rw [document?]
  cases disk.read path with
  | error failure => cases failure <;> rfl
  | ok bytes =>
    rw [Document.decode]
    cases decoded : Document.ofBytes bytes <;> simp [Except.toOption, decoded]

namespace Project

/-- The store that the text of a header is scanned into. -/
def scannedStore (project : Project) (text : String) : Store :=
  ((Session.new project).scanned text).store

/-- The store of a project as it is opened: the header is scanned, and the document is laid over it
if it can be used. -/
def openedStore (project : Project) (disk : Disk) (text : String) : Store :=
  (disk.document? project.documentPath).elim (project.scannedStore text)
    (·.overlay (project.scannedStore text))

end Project

/-- A document that may be missing leaves the identifiers alone. -/
theorem identifiers_elim_overlay (document : Option Document) (store : Store) :
    (document.elim store (·.overlay store)).identifiers = store.identifiers := by
  cases document with
  | none => rfl
  | some document => exact Document.identifiers_overlay document store

theorem Project.identifiers_openedStore (project : Project) (disk : Disk) (text : String) :
    (project.openedStore disk text).identifiers = (project.scannedStore text).identifiers :=
  identifiers_elim_overlay _ _

namespace Session

variable (date : Option Date)

theorem rescan_runOn (session : Session) (disk : Disk) : session.rescan.runOn date disk =
    (((Header.decode session.project.headerPath
      (disk.read session.project.headerPath)).mapError .header).map session.scanned, disk) := by
  simp only [rescan, Header.read, runOn_within, runOn_bind, runOn_read, runOn_pure]
  cases Header.decode session.project.headerPath (disk.read session.project.headerPath) with
  | error e => rfl
  | ok text =>
    simp only [runOn_bind, runOn_reportAll, runOn_pure]
    rfl

theorem load_runOn (session : Session) (disk : Disk) :
    ∃ left status, session.load.runOn date disk = ((left, status), disk) ∧
      left.project = session.project ∧
      left.store = (disk.document? session.project.documentPath).elim session.store
        (·.overlay session.store) := by
  simp only [load, Document.loadFor, Document.load?, runOn_bind, runOn_read, runOn_pure,
    Disk.document?_eq]
  cases Document.decode session.project.documentPath (disk.read session.project.documentPath) with
  | error e => cases e <;> exact ⟨session, _, rfl, rfl, rfl⟩
  | ok found =>
    cases found with
    | none => exact ⟨session, _, rfl, rfl, rfl⟩
    | some document =>
      refine ⟨session.overlaid document, .loaded (document.summary session.store), ?_, rfl, rfl⟩
      simp only [runOn_bind, runOn_reportAll, runOn_pure]

variable {project : Project} {disk : Disk}

theorem openProject_runOn_error {e : HeaderError}
    (unread : Header.decode project.headerPath (disk.read project.headerPath) = .error e) :
    (openProject project).runOn date disk = (.error (.header e), disk) := by
  have scan := rescan_runOn date (new project) disk
  simp only [new, unread, Except.mapError, Except.map] at scan
  simp only [openProject, new, runOn_bind, scan, runOn_pure]

theorem openProject_runOn_ok {text : String}
    (read : Header.decode project.headerPath (disk.read project.headerPath) = .ok text) :
    ∃ session, (openProject project).runOn date disk = (.ok session, disk) ∧
      session.project = project ∧ session.store = project.openedStore disk text := by
  have scan := rescan_runOn date (new project) disk
  obtain ⟨left, status, load, same, store⟩ :=
    load_runOn date ((new project).scanned text) disk
  simp only [new, read, Except.mapError, Except.map] at scan load
  refine ⟨left, ?_, same, store⟩
  simp only [openProject, new, runOn_bind, scan, load, runOn_pure]

end Session

end WidgetBindings
