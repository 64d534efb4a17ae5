/-
  Where outputs go.

  With an output directory every input keeps its file name in it, so two inputs
  of the same name cannot both be written.
-/
import SoleExport.Path

namespace SoleExport

/-- Why outputs cannot be placed. -/
inductive OutputError where
  /-- The input's path ends in no name. -/
  | noFileName (input : String)
  /-- An earlier input has the same file name. -/
  | collision (previous input path : String)
deriving DecidableEq, Repr, Inhabited

/-- The wording of an error. -/
def OutputError.message : OutputError → String
  | .noFileName input => input ++ " has no file name"
  | .collision previous input path =>
    previous ++ " and " ++ input ++ " would both be written to " ++ path ++
      "; use --output per file or rename one"

/-- Place the inputs in turn; `seen` holds the file names so far, each with its
    input. -/
def outputPathsFrom (directory : String) (seen : List (String × String)) :
    List String → Except OutputError (List String)
  | [] => .ok []
  | input :: inputs =>
    match fileName? input with
    | none => .error (.noFileName input)
    | some name =>
      match seen.lookup name with
      | some previous => .error (.collision previous input (joinPath directory name))
      | none => do
        let paths ← outputPathsFrom directory ((name, input) :: seen) inputs
        return joinPath directory name :: paths

/-- The output path of each input. -/
def outputPaths (inputs : List String) (directory : String) : Except OutputError (List String) :=
  outputPathsFrom directory [] inputs

end SoleExport
