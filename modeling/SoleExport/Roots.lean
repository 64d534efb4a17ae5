/-
  Root files.

  Only the files a compilation was started with are converted.  A file is a
  root if its name, as given or in normal form, is that of a root, as given or
  in normal form.
-/
import SoleExport.Path

namespace SoleExport

/-- The set of root files, as the spellings they are known by. -/
structure Roots where
  spellings : List String
deriving DecidableEq, Repr, Inhabited

namespace Roots

/-- The roots with the given names. -/
def ofList (names : List String) : Roots := ⟨names.flatMap fun n => [n, normalizePath n]⟩

/-- Whether a file name is that of a root. -/
def contains (roots : Roots) (name : String) : Bool :=
  roots.spellings.contains name || roots.spellings.contains (normalizePath name)

end Roots

end SoleExport
