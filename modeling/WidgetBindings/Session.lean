import WidgetBindings.Document.Storage
import WidgetBindings.Header
import WidgetBindings.Notes
import WidgetBindings.Project
import WidgetBindings.Source.Storage

/-!
# Sessions

A session is the work on one project: its header is scanned into a store, the saved document is laid
over it, fields are edited, and the document and the source are saved. What each command does to the
session is a function of what was read (`scanned`, `overlaid`, `edited`); the commands themselves
only ask for files around that. A command that fails leaves the session as it was.

A scan fails for its header only. It would also fail if the pattern of a declaration could not be
made for the object type of the project because it is too large. That stage is left out: no object
type is assumed to be so long.
-/

namespace WidgetBindings

/-- Why a command of a session failed. An object type that is too long for a pattern is not among
the reasons: it is assumed that there is none. -/
inductive SessionError
  | header (error : HeaderError)
  | edit (refusal : Refusal)
  | document (error : DocumentError)
  | source (error : WriteError)

namespace SessionError

/-- Whether an error ends the run before any file has been touched. -/
def isFatal : SessionError → Bool
  | header _ => true
  | edit _ | document _ | source _ => false

def message : SessionError → String
  | header error => error.message
  | edit refusal => refusal.message
  | document error => error.message
  | source error => Source.failureMessage error

def hint : SessionError → String
  | header _ => "Check --working-dir and --include point at the generated UI header."
  | edit _ => "Run `uibind types` to list the accepted control types and events."
  | document error => error.hint
  | source _ => "Free up disk space or choose a different working directory."

/-- The sentences of what lies behind an error, the nearest first. -/
def causes : SessionError → List String
  | header error => [error.failure.message]
  | edit _ => []
  | document error => error.causes
  | source error => [error.message, error.failure.message]

end SessionError

/-- What came of loading the saved document. -/
inductive LoadStatus
  | missing
  /-- The file is no document. -/
  | unparsable
  /-- The file could not be read. -/
  | unreadable
  | loaded (summary : LoadSummary)
  deriving DecidableEq, Repr

/-- The state of the work on a project. -/
structure Session where
  project : Project
  table : PrefixTable
  store : Store
  notes : Notes
  lastScan : ScanSummary

/-- What has been saved. -/
structure SaveReport where
  documentPath : String
  sourcePath : String
  source : String

namespace Session

/-- A session before its first scan. -/
def new (project : Project) (table : PrefixTable := .standard) : Session :=
  ⟨project, table, .empty, .empty, .empty⟩

def rules (session : Session) : Classifier :=
  ⟨session.table, session.project.constantPrefix, session.project.acceptAll⟩

def buildFrom (session : Session) (text : String) : Build :=
  .ofDeclarations session.rules (Declaration.scan session.project.objectType text)

/-- The session after a scan of the text of a header. Edits made before are lost. -/
def scanned (session : Session) (text : String) : Session :=
  let build := session.buildFrom text
  { session with
    store := build.store
    notes := session.notes.append build.notes
    lastScan := build.summary }

/-- The session after a document has been laid over its store. -/
def overlaid (session : Session) (document : Document) : Session :=
  { session with
    store := document.overlay session.store
    notes := session.notes.append (document.notes session.store) }

/-- The session after one field of one entry has been set. -/
def edited (session : Session) (identifier : String) (edit : Edit) : Except Refusal Session := do
  .ok { session with store := ← session.store.edit identifier edit }

/-- The edit of a field that is named and given a value by an operator. -/
def parseEdit (field value : String) : Except Refusal Edit := do
  Edit.parse (← Field.ofName field) value

open Program

/-- Scans the header. Only reading it can fail, if the pattern for the object type is not too large,
as is assumed. -/
def rescan (session : Session) : Program (Except SessionError Session) :=
  let path := session.project.headerPath
  within (.scan path) do
    match ← Header.read path with
    | .error e => pure (.error (.header e))
    | .ok text =>
      reportAll (Log.Report.ofBuild (session.buildFrom text))
      pure (.ok (session.scanned text))

/-- Lays the saved document over the store. A document that cannot be used is reported and left
alone. -/
def load (session : Session) : Program (Session × LoadStatus) := do
  match ← Document.loadFor session.store session.project.documentPath with
  | .ok none => pure (session, .missing)
  | .ok (some document) =>
    pure (session.overlaid document, .loaded (document.summary session.store))
  | .error e =>
    report (.documentIgnored e.message e.hint)
    match e with
    | .malformed _ _ => pure (session, .unparsable)
    | .unreadable _ _ | .unwritten _ => pure (session, .unreadable)

/-- A session with the header scanned and the saved document loaded. -/
def openProject (project : Project) : Program (Except SessionError Session) := do
  match ← rescan (new project) with
  | .error e => pure (.error e)
  | .ok session => do
    let (session, _) ← session.load
    pure (.ok session)

def apply (session : Session) (identifier : String) (edit : Edit) :
    Program (Except SessionError Session) :=
  match session.edited identifier edit with
  | .error refusal => pure (.error (.edit refusal))
  | .ok session => do
    report (.fieldUpdated identifier edit.field)
    pure (.ok session)

/-- Sets one field of one entry as an operator asks. -/
def edit (session : Session) (identifier field value : String) :
    Program (Except SessionError Session) :=
  match parseEdit field value with
  | .error refusal => pure (.error (.edit refusal))
  | .ok edit => session.apply identifier edit

def sourceOptions (session : Session) (diagnostic : Bool) (banner : Option Source.Banner) :
    Source.Options :=
  ⟨session.project.includeFile, diagnostic, banner⟩

/-- Saves the document and then the source. -/
def save (session : Session) (options : Source.Options) :
    Program (Except SessionError SaveReport) := do
  let documentPath := session.project.documentPath
  let sourcePath := session.project.sourcePath
  match ← (Document.ofStore session.store).save documentPath with
  | .error e => pure (.error (.document e))
  | .ok () =>
    match ← Source.save session.store options sourcePath with
    | .error e => pure (.error (.source e))
    | .ok source => pure (.ok ⟨documentPath, sourcePath, source⟩)

end Session

end WidgetBindings
