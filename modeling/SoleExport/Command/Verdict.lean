/-
  What would become of a file.

  The verdict is given from the surface of the file alone.
-/
import SoleExport.Exports

namespace SoleExport

/-- What would become of a file. -/
inductive Verdict where
  /-- It is a script and stays as it is. -/
  | script
  /-- It has no default export and stays as it is. -/
  | noDefault
  /-- It is refused for its named exports. -/
  | refused
  /-- Its default export is converted, next to named exports or not. -/
  | converted (hasNamed : Bool)
deriving DecidableEq, Repr, Inhabited

/-- The verdict on a file with the given surface. -/
def Verdict.ofSurface (allowNamed : Bool) : Option Surface → Verdict
  | none => .script
  | some s =>
    if !s.hasDefault then .noDefault
    else if s.hasNamed && !allowNamed then .refused
    else .converted s.hasNamed

/-- The verdict on a file. -/
def SourceFile.verdict (f : SourceFile) (allowNamed : Bool) : Verdict :=
  Verdict.ofSurface allowNamed (Oracle.syntactic.surface f)

/-- The wording of a verdict on the file with the given name. -/
def Verdict.message (file : String) : Verdict → String
  | .script => file ++ ": script (no exports), left unchanged"
  | .noDefault => file ++ ": no default export, left unchanged"
  | .refused =>
    file ++ ": default export next to named exports; " ++
      "pass --allow-named-exports to rewrite it anyway"
  | .converted hasNamed =>
    file ++ ": default export would be rewritten (named exports: " ++
      (if hasNamed then "true" else "false") ++ ")"

end SoleExport
