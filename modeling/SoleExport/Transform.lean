/-
  The transformation of a file.

  A root file with a default export is converted item by item.  Files outside
  the roots, scripts, and modules without a default export come back as they
  are; a default export next to named exports is refused unless the options
  allow it, because `export =` hides the named ones.
-/
import SoleExport.Conversion
import SoleExport.Roots

namespace SoleExport

/-- What is known about a compilation. -/
structure Compilation where
  roots : Roots
  /-- Which names a file exports. -/
  oracle : Oracle

/-- Why a file cannot be converted. -/
inductive TransformError where
  /-- The file has named exports next to its default export. -/
  | namedExports (file : String)
deriving DecidableEq, Repr, Inhabited

/-- The wording of an error. -/
def TransformError.message : TransformError → String
  | .namedExports file =>
    "Unable to transform the default export of the module \"" ++ file ++
      "\". The module has named exports, which could be lost during the transformation. " ++
      "To ignore this, set the `allowNamedExports` option to `true`"

/-- A result with the events that led to it. -/
structure Logged (α : Type) where
  result : α
  events : List Event

/-- Convert every item of a file.  It is worth a warning if none is converted. -/
def SourceFile.convert (f : SourceFile) (options : Options) : Logged SourceFile :=
  let steps := f.steps options
  let body := steps.flatMap fun s => s.conversion.items
  let events := steps.flatMap Step.events
  let warning :=
    if steps.any fun s => s.conversion.isReplacement then [] else [Event.nothingConverted f.name]
  ⟨{ f with module := { f.module with body } }, events ++ warning⟩

/-- Transform a file of a compilation. -/
def Compilation.apply (c : Compilation) (options : Options) (f : SourceFile) :
    Logged (Except TransformError SourceFile) :=
  if !c.roots.contains f.name then ⟨.ok f, [.notRoot f.name]⟩
  else
    match c.oracle.surface f with
    | none => ⟨.ok f, [.noModule f.name]⟩
    | some surface =>
      let seen := Event.surface f.name surface
      if !surface.hasDefault then ⟨.ok f, [seen]⟩
      else if surface.hasNamed && !options.allowNamed then
        ⟨.error (.namedExports f.name), [seen]⟩
      else
        let converted := f.convert options
        ⟨.ok converted.result, seen :: converted.events⟩

end SoleExport
