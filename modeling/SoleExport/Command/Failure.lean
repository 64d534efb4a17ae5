/-
  Why a command fails.

  A failure is reported as what could not be done and, where there is one, the
  cause.
-/
import SoleExport.Host
import SoleExport.OutputPaths
import SoleExport.Text.Conversion

namespace SoleExport

/-- Why a command fails. -/
inductive Failure where
  /-- There is one output for several inputs. -/
  | severalInputs
  /-- The file with the options cannot be read. -/
  | unreadableConfig (path : String) (e : SystemError)
  /-- The file with the options is no good. -/
  | invalidConfig (path : String) (reason : String)
  /-- The outputs cannot be placed. -/
  | outputs (e : OutputError)
  /-- An input cannot be read. -/
  | unreadableInput (path : String) (e : SystemError)
  /-- The text of an input cannot be converted. -/
  | text (e : TextError)
  /-- A file is refused by a check. -/
  | refused (reason : String)
  /-- The system refuses. -/
  | system (e : SystemError)
deriving DecidableEq, Repr, Inhabited

namespace Failure

/-- The wording of a failure. -/
def message : Failure → String
  | .severalInputs => "--output takes a single input; use --out-dir for several"
  | .unreadableConfig path _ => "failed to read config " ++ path
  | .invalidConfig path _ => "invalid config " ++ path
  | .outputs e => e.message
  | .unreadableInput path _ => "failed to read " ++ path
  | .text e => e.message
  | .refused reason => reason
  | .system e => e.message

/-- What has led to a failure, if its message does not say so. -/
def cause? : Failure → Option String
  | .unreadableConfig _ e | .unreadableInput _ e => some e.message
  | .invalidConfig _ reason => some reason
  | _ => none

/-- The report of a failure. -/
def report (f : Failure) : String :=
  "Error: " ++ f.message ++
    match f.cause? with
    | some cause => "\n\nCaused by:\n    " ++ cause
    | none => ""

end Failure

end SoleExport
