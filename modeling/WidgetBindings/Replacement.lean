import WidgetBindings.Path
import WidgetBindings.Program

/-!
# Replacing a file

A file is replaced as a whole or not at all. The new bytes are written to a file beside it and
stored safely; then that file takes its place in one step. If anything fails the file beside it is
removed.
-/

namespace WidgetBindings

/-- Why a file could not be replaced. -/
inductive WriteError
  | operation (name path : String) (failure : Failure)
  /-- The new file could not take its place. -/
  | move (source target : String) (failure : Failure)
  deriving DecidableEq, Repr

namespace WriteError

def failure : WriteError → Failure
  | operation _ _ failure => failure
  | move _ _ failure => failure

def message : WriteError → String
  | operation name path failure => s!"failed to {name} {path}: {failure.message}"
  | move source target failure =>
    s!"failed to move {source} into place at {target}: {failure.message}"

end WriteError

namespace Replacement

open Program

/-- Makes a directory and those above it that are missing. At most `fuel` of them are made. -/
def makeDirectories : (fuel : Nat) → (path : String) → Program (Except Failure Unit)
  | 0, _ => pure (.error .noSuchFile)
  | fuel + 1, path => do
    match ← makeDirectory path with
    | .ok () => pure (.ok ())
    | .error .noSuchFile =>
      match Path.parent? path with
      | none => pure (.error .noSuchFile)
      | some "" => unlessThere path (← makeDirectory path)
      | some parent =>
        match ← makeDirectories fuel parent with
        | .error failure => pure (.error failure)
        | .ok () => unlessThere path (← makeDirectory path)
    | .error failure => unlessThere path (.error failure)
where
  /-- The outcome of making a directory, which is a success too if it is there. -/
  unlessThere (path : String) (outcome : Except Failure Unit) : Program (Except Failure Unit) :=
    match outcome with
    | .ok () => pure (.ok ())
    | .error failure => do
      if ← isDirectory path then pure (.ok ()) else pure (.error failure)

def prepareDirectory (path : String) : Program (Except WriteError Unit) :=
  match Path.parent? path with
  | none | some "" => pure (.ok ())
  | some parent => do
    match ← makeDirectories (parent.length + 1) parent with
    | .ok () => pure (.ok ())
    | .error failure => pure (.error (.operation "create directory" parent failure))

/-- Writes a new file and waits until it is stored. -/
def writeNew (path : String) (bytes : List UInt8) : Program (Except WriteError Unit) := do
  match ← create path with
  | .error failure => pure (.error (.operation "create" path failure))
  | .ok () =>
    match ← write path bytes with
    | .error failure => pure (.error (.operation "write" path failure))
    | .ok () =>
      match ← sync path with
      | .error failure => pure (.error (.operation "sync" path failure))
      | .ok () => pure (.ok ())

/-- Writes a file beside the one at a path and moves it into place. -/
def swap (temporary path : String) (bytes : List UInt8) : Program (Except WriteError Unit) := do
  match ← writeNew temporary bytes with
  | .error e => pure (.error e)
  | .ok () =>
    match ← rename temporary path with
    | .error failure => pure (.error (.move temporary path failure))
    | .ok () => pure (.ok ())

end Replacement

open Program in
/-- Replaces the file at a path. -/
def replaceFile (path : String) (bytes : List UInt8) : Program (Except WriteError Unit) := do
  match ← Replacement.prepareDirectory path with
  | .error e => pure (.error e)
  | .ok () =>
    let temporary := Path.temporary path
    match ← Replacement.swap temporary path bytes with
    | .error e =>
      let _ ← remove temporary
      pure (.error e)
    | .ok () =>
      report (.fileWritten path bytes.length)
      pure (.ok ())

end WidgetBindings
