import WidgetBindings.CommandLine.Arguments
import WidgetBindings.EntryJson
import WidgetBindings.Session
import WidgetBindings.Table.Views

/-!
# Running a command

Every command but the list of types opens the project: it scans the header and loads the saved
document. `edit` and `generate` save the document and the source. What a command prints is its
outcome.
-/

namespace WidgetBindings.CommandLine

open Program

/-- What the tool is told when it is started. -/
structure Invocation where
  arguments : List String
  /-- The directives that the surroundings ask for. -/
  directives : Option String := none
  /-- Whether error output is shown on a terminal. -/
  terminal : Bool := false

/-- How a run ends: its exit code and what it prints. -/
structure Outcome where
  code : Nat
  output : String := ""
  errors : String := ""
  deriving DecidableEq, Repr

/-- Why a command failed: sentences from the outermost to the innermost, and a hint. -/
structure Problem where
  sentences : List String
  hint : Option String := none

/-- A failed command of a session, and what it was part of. -/
def Problem.ofSession (context : String) (e : SessionError) : Problem :=
  ⟨context :: e.message :: e.causes, some e.hint⟩

def Problem.outcome (problem : Problem) : Outcome where
  code := 1
  errors := "error: " ++ ": ".intercalate problem.sentences ++ "\n" ++
    (problem.hint.elim "" fun hint => s!"hint: {hint}\n")

/-- The outcome of a command, which prints something if it succeeds. -/
def conclude : Except Problem String → Outcome
  | .ok output => { code := 0, output }
  | .error problem => problem.outcome

def toolName : String := "uibind"

def toolVersion : String := "0.1.0"

def notesText (notes : Notes) : String :=
  if notes.lines.isEmpty then "No notes.\n"
  else "Notes:\n" ++ String.join (notes.lines.map fun note => s!"  {note}\n")

def anyNotesText (notes : Notes) : String :=
  if notes.lines.isEmpty then "" else notesText notes

def scanText (s : ScanSummary) : String :=
  s!"{s.declarations} declarations: {s.mapped} mapped, {s.fallback} fallback, " ++
    s!"{s.rejected} unsupported, {s.duplicates} duplicate\n"

def listText (session : Session) (json : Bool) : String :=
  if json then (Json.array (session.store.toList.map Entry.toJson)).pretty ++ "\n"
  else (Table.ofStore session.store).text ++ "\n" ++ scanText session.lastScan ++
    anyNotesText session.notes

def typesText : String :=
  (Table.ofPrefixes .standard).text ++ "\n" ++ Table.vocabulary.text ++ "\n"

def openSession (project : Project) : Program (Except Problem Session) := do
  match ← Session.openProject project with
  | .ok session => pure (.ok session)
  | .error e => pure (.error (.ofSession s!"open binding project at {project.headerPath}" e))

/-- The banner for files that are made today, unless there is to be none. -/
def banner (output : Output) : Program (Option Source.Banner) := do
  if output.noBanner then pure none
  else pure ((← today).map fun date => ⟨toolName, toolVersion, date⟩)

def saveFiles (session : Session) (output : Output) : Program (Except Problem String) := do
  let options := session.sourceOptions output.diagnostic (← banner output)
  match ← session.save options with
  | .error e => pure (.error (.ofSession "save bindings" e))
  | .ok saved =>
    pure (.ok (s!"Settings: {saved.documentPath}\nBindings: {saved.sourcePath}\n" ++
      anyNotesText session.notes))

/-- The field and the value of an assignment. -/
def splitAssignment? (text : String) : Option (String × String) :=
  match text.toList.dropWhile (· ≠ '=') with
  | [] => none
  | _ :: value =>
    some (Text.trim (String.ofList (text.toList.takeWhile (· ≠ '='))), String.ofList value)

/-- Makes assignments one after the other. -/
def assignAll (identifier : String) : Session → List String → Program (Except Problem Session)
  | session, [] => pure (.ok session)
  | session, text :: rest =>
    match splitAssignment? text with
    | none => pure (.error ⟨[s!"expected FIELD=VALUE, got {Text.quoted text}"], none⟩)
    | some (field, value) => do
      match ← session.edit identifier field value with
      | .error e => pure (.error (.ofSession s!"edit {identifier} {field}" e))
      | .ok session => assignAll identifier session rest

def editAndSave (session : Session) (identifier : String) (assignments : List String)
    (output : Output) : Program (Except Problem String) :=
  within (.edit identifier) do
    match ← assignAll identifier session assignments with
    | .error problem => pure (.error problem)
    | .ok session => saveFiles session output

def perform (project : Project) : Command → Program (Except Problem String)
  | .types => pure (.ok typesText)
  | .list json => do pure ((← openSession project).map (listText · json))
  | .notes => do pure ((← openSession project).map (notesText ·.notes))
  | .generate output => do
    match ← openSession project with
    | .error problem => pure (.error problem)
    | .ok session => saveFiles session output
  | .edit identifier assignments output => do
    match ← openSession project with
    | .error problem => pure (.error problem)
    | .ok session => editAndSave session identifier assignments output

/-- The level that the options ask for. Without any it shows warnings. -/
def Settings.level (settings : Settings) : Log.Level :=
  settings.logLevel.getD (.ofRank (2 + settings.verbosity.getD 0).toNat)

/-- The directives that count: those of the surroundings, unless the options ask for a level. -/
def Settings.filter (settings : Settings) (directives : Option String) : Log.Filter :=
  let asked := if settings.verbosity.isNone && settings.logLevel.isNone then directives else none
  (asked.bind Log.Filter.ofText?).getD (.ofLevel settings.level)

/-- How reports are shown. -/
def Settings.style (settings : Settings) (invocation : Invocation) : Log.Style where
  filter := settings.filter invocation.directives
  layout := settings.layout
  coloured :=
    match settings.colour with
    | .always => true
    | .never => false
    | .auto => settings.logFile.isNone && invocation.terminal

def helpText : String :=
  "Generate LVGL producer/consumer bindings from a UI header\n\n" ++
  "Usage: uibind [OPTIONS] <COMMAND>\n\nCommands: list, edit, generate, notes, types, help\n\n" ++
  "Options:\n" ++ String.join (Switch.all.map fun switch => s!"  --{switch.name}\n")

def run (invocation : Invocation) : Program Outcome :=
  match parse invocation.arguments with
  | .error .helpWanted => pure { code := 0, output := helpText }
  | .error .versionWanted => pure { code := 0, output := s!"{toolName} {toolVersion}\n" }
  | .error .refused => pure { code := 2, errors := "error: unusable arguments\n" }
  | .ok (settings, command) => do
    match ← openLog (settings.style invocation) settings.logFile with
    | .error failure =>
      pure { code := 1, errors := s!"error: failed to initialize logging: {failure.message}\n" }
    | .ok () => pure (conclude (← perform settings.project command))

end WidgetBindings.CommandLine
