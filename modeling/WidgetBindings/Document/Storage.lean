import WidgetBindings.Replacement
import WidgetBindings.Text.Bytes

/-!
# Saving and loading documents

A document replaces the one that was saved before. It is no error if there is none yet.
-/

namespace WidgetBindings

/-- Why a document could not be saved or loaded. -/
inductive DocumentError
  /-- The file is there but could not be read. -/
  | unreadable (path : String) (failure : Failure)
  /-- The file could not be replaced. -/
  | unwritten (error : WriteError)
  /-- The file is no document. -/
  | malformed (path : String) (complaint : Json.Complaint)

namespace DocumentError

def message : DocumentError → String
  | unreadable path failure => s!"failed to read {path}: {failure.message}"
  | unwritten error => error.message
  | malformed path complaint =>
    s!"failed to parse configuration document {path}: {complaint.message}"

def hint : DocumentError → String
  | unreadable _ _ =>
    "Check that the document is a regular file you have permission to read."
  | unwritten _ => "Free up disk space or choose a different working directory."
  | malformed _ _ => "Delete or fix the file; saving again will write a fresh document."

/-- The sentences of what lies behind an error, the nearest first. -/
def causes : DocumentError → List String
  | unreadable _ failure => [failure.message]
  | unwritten error => [error.failure.message]
  | malformed _ complaint => [complaint.message]

end DocumentError

namespace Document

open Program

def save (document : Document) (path : String) : Program (Except DocumentError Unit) := do
  match ← replaceFile path (Text.toBytes document.text) with
  | .error e => pure (.error (.unwritten e))
  | .ok () =>
    report (.documentSaved path document.identifiers.length)
    pure (.ok ())

/-- The document that was read from a path, if there is one. -/
def decode (path : String) :
    Except Failure (List UInt8) → Except DocumentError (Option Document)
  | .error .noSuchFile => .ok none
  | .error failure => .error (.unreadable path failure)
  | .ok bytes =>
    match ofBytes bytes with
    | .ok document => .ok (some document)
    | .error complaint => .error (.malformed path complaint)

/-- The document at a path, if there is one. -/
def load? (path : String) : Program (Except DocumentError (Option Document)) := do
  pure (decode path (← Program.read path))

/-- The document at a path, which is about to be laid over a store. -/
def loadFor (store : Store) (path : String) :
    Program (Except DocumentError (Option Document)) := do
  match ← load? path with
  | .error e => pure (.error e)
  | .ok none =>
    report (.documentMissing path)
    pure (.ok none)
  | .ok (some document) =>
    reportAll (Log.Report.ofLoad path document store)
    pure (.ok (some document))

end Document

end WidgetBindings
