import Std.Time.Zoned
import WidgetBindings.CommandLine.Run

/-!
# The command

The tool, run by the operating system: requests of the program become calls of the system.
-/

namespace WidgetBindings.CommandLine

/-- The failure that the system reports by a number and a sentence. The number may come with a minus
sign. -/
def failureOf (code : UInt32) (details : String) : Failure :=
  let code := if code < 0x80000000 then code else 0 - code
  if code = 2 then .noSuchFile
  else if code = 16 then .busy
  else if code = 17 then .alreadyExists
  else if code = 20 then .notADirectory
  else if code = 21 then .isADirectory
  else if code = 36 then .nameTooLong
  else .other s!"{details} (os error {code})"

/-- The failure behind an error of the system. -/
def failureOfError : IO.Error → Failure
  | .alreadyExists _ code details | .otherError code details | .resourceBusy code details
  | .resourceVanished code details | .unsupportedOperation code details
  | .hardwareFault code details | .unsatisfiedConstraints code details
  | .illegalOperation code details | .protocolError code details | .timeExpired code details
  | .interrupted _ code details | .noFileOrDirectory _ code details
  | .invalidArgument _ code details | .permissionDenied _ code details
  | .resourceExhausted _ code details | .inappropriateType _ code details
  | .noSuchThing _ code details => failureOf code details
  | .unexpectedEof => .other "unexpected end of file"
  | .userError text => .other text

/-- What a call of the system comes to. -/
def attempt {α : Type} (call : IO α) : IO (Except Failure α) := do
  try
    return .ok (← call)
  catch e =>
    return .error (failureOfError e)

/-- Where reports go, and how they are shown. -/
structure OpenLog where
  style : Log.Style
  file : Option IO.FS.Handle

/-- The date of today, as the system has it. -/
def systemDate : IO (Option Date) := do
  let now ← Std.Time.PlainDate.now
  return Date.of? now.year now.month.val.toNat now.day.val.toNat

/-- How the system answers a request. -/
def answer (log : IO.Ref (Option OpenLog)) : (r : Request) → IO r.Answer
  | .makeDirectory path => attempt (IO.FS.createDir path)
  | .isDirectory path => (System.mkFilePath [path]).isDir
  | .create path => attempt (IO.FS.writeBinFile path .empty)
  | .write path bytes => attempt (IO.FS.writeBinFile path ⟨bytes.toArray⟩)
  | .sync path => attempt do
    let handle ← IO.FS.Handle.mk path .append
    handle.flush
  | .rename source target => attempt (IO.FS.rename source target)
  | .remove path => attempt (IO.FS.removeFile path)
  | .read path => attempt do
    let bytes ← IO.FS.readBinFile path
    return bytes.data.toList
  | .openLog style path => attempt do
    let file ← path.mapM fun path => IO.FS.Handle.mk path .append
    log.set (some ⟨style, file⟩)
  | .report spans report => do
    if let some current ← log.get then
      if current.style.shows report then
        let line := current.style.line spans report
        match current.file with
        | some handle =>
          handle.putStr line
          handle.flush
        | none => IO.eprint line
  | .today => systemDate

end WidgetBindings.CommandLine

open WidgetBindings.CommandLine in
def main (arguments : List String) : IO UInt32 := do
  let log ← IO.mkRef none
  let directives ← IO.getEnv "RUST_LOG"
  let terminal ← (← IO.getStderr).isTty
  let outcome ← (run { arguments, directives, terminal }).runIn (answer log)
  IO.print outcome.output
  IO.eprint outcome.errors
  return UInt32.ofNat outcome.code
