/-!
# Failures of file operations

Why an operation on files failed, and the sentence for it.
-/

namespace WidgetBindings

/-- Why an operation on files failed. -/
inductive Failure
  | noSuchFile
  | alreadyExists
  | notADirectory
  | isADirectory
  | nameTooLong
  | busy
  /-- A path may not hold the character zero. -/
  | zeroInPath
  /-- The bytes of the file are not text. -/
  | notText
  /-- A failure that the system reports in its own words. -/
  | other (sentence : String)
  deriving DecidableEq, Repr

def Failure.message : Failure → String
  | .noSuchFile => "No such file or directory (os error 2)"
  | .busy => "Device or resource busy (os error 16)"
  | .alreadyExists => "File exists (os error 17)"
  | .notADirectory => "Not a directory (os error 20)"
  | .isADirectory => "Is a directory (os error 21)"
  | .nameTooLong => "File name too long (os error 36)"
  | .zeroInPath => "file name contained an unexpected NUL byte"
  | .notText => "stream did not contain valid UTF-8"
  | .other sentence => sentence

end WidgetBindings
