/-
  The program: the commands on the real system.
-/
import SoleExport.Command.Run

namespace SoleExport

/-- Why the system refuses, by the error it reports. -/
def SystemError.ofError : IO.Error → SystemError
  | .noFileOrDirectory .. => .notFound
  | .alreadyExists .. => .alreadyExists
  | .inappropriateType .. => .isDirectory
  | e => .other (toString e)

/-- Do something, keeping the error. -/
def trying {α : Type} (action : IO α) : IO (Except SystemError α) := do
  match ← action.toBaseIO with
  | .ok a => return .ok a
  | .error e => return .error (.ofError e)

/-- The text of a file of the system. -/
def readFile (path : String) : IO (Except SystemError String) := do
  match ← trying (IO.FS.readBinFile path) with
  | .error e => return .error e
  | .ok bytes =>
    match String.fromUTF8? bytes with
    | some text => return .ok text
    | none => return .error .notText

/-- The real system. -/
def realHost : Host IO where
  read := readFile
  write path text := trying (IO.FS.writeFile path text)
  createDirectory path := trying (IO.FS.createDirAll path)
  print := IO.print
  report := IO.eprintln
  log := IO.eprintln

/-- How the program is used. -/
def usage : String :=
  "Usage: ee [-v] transform [-o FILE | --out-dir DIR] [--root FILE]... [--config FILE]\n" ++
  "          [--keep-original-export] [--allow-named-exports] INPUT...\n" ++
  "       ee [-v] check [--allow-named-exports] INPUT\n" ++
  "       ee [-v] parse [--ast] INPUT"

end SoleExport

open SoleExport in
/-- Run the command line. -/
def main (words : List String) : IO UInt32 := do
  let outcome ← realHost.run words
  match outcome with
  | .done => pure ()
  | .helped => IO.println usage
  | .misused => IO.eprintln usage
  | .failed f => IO.eprintln f.report
  return outcome.code
