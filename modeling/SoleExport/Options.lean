/-
  The switches of the transformation.  Both are off unless they are asked for.
-/

namespace SoleExport

/-- How a default export is converted.  Both switches are off unless set. -/
structure Options where
  /-- Keep the default export next to `export =`. -/
  keepDefault : Bool := false
  /-- Convert a default export that stands next to named exports, instead of
      refusing to: `export =` hides the named ones. -/
  allowNamed : Bool := false
deriving DecidableEq, Repr, Inhabited

end SoleExport
