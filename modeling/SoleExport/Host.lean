/-
  The system a command runs on.

  A `Host` offers what a command needs: files, two channels for text, and a log.
  The commands are written for any host, so that the same command runs on the
  real system and on a model of it.
-/

namespace SoleExport

/-- Why the system refuses. -/
inductive SystemError where
  | notFound
  | isDirectory
  | notDirectory
  | alreadyExists
  /-- The bytes of a file are not text. -/
  | notText
  | other (message : String)
deriving DecidableEq, Repr, Inhabited

/-- The wording of an error. -/
def SystemError.message : SystemError → String
  | .notFound => "No such file or directory (os error 2)"
  | .isDirectory => "Is a directory (os error 21)"
  | .notDirectory => "Not a directory (os error 20)"
  | .alreadyExists => "File exists (os error 17)"
  | .notText => "stream did not contain valid UTF-8"
  | .other message => message

/-- What a command asks of the system. -/
structure Host (m : Type → Type) where
  /-- The text of a file. -/
  read : String → m (Except SystemError String)
  /-- Replace the text of a file, or make a new one. -/
  write : String → String → m (Except SystemError Unit)
  /-- Make a directory with all directories above it, unless it is there. -/
  createDirectory : String → m (Except SystemError Unit)
  /-- Show a result. -/
  print : String → m Unit
  /-- Show a line of a report. -/
  report : String → m Unit
  /-- Write a line to the log. -/
  log : String → m Unit

end SoleExport
