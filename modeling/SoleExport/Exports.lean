/-
  What a module exports.

  `Module.exportedNames` reads the exported names off the top-level items, in
  source order and with repeats; a file without any import or export is a
  script and has none to report.  `Surface` is all the transformation asks
  about them: is there a default export, and is there any other?
-/
import SoleExport.SourceFile

namespace SoleExport

/-! ## Exported names -/

/-- The name of the default export. -/
def defaultName : String := "default"

/-- The name reported for `export * from "m"`, whose names are unknown. -/
def starName : String := "*"

/-- The name reported for `export = e`. -/
def equalsName : String := "export="

/-- The name reported for any string literal in an export list. -/
def literalName : String := "\"<string>\""

/-- The name under which an export name is reported. -/
def ExportName.reported : ExportName → String
  | .ident i => i.name
  | .literal _ => literalName

/-- The name an entry of an export list exports. -/
def Specifier.exportedName : Specifier → String
  | .named s => (s.exported.getD s.orig).reported
  | .wildcard _ n => n.reported
  | .default i => i.name

/-- The names an item exports. -/
def Item.exportedNames : Item → List String
  | .exportDeclaration _ d => d.names
  | .exportList l => l.specifiers.map Specifier.exportedName
  | .defaultDefinition _ _ _ | .defaultInterface _ _ | .defaultExpr _ _ => [defaultName]
  | .exportAll _ => [starName]
  | .exportEquals _ _ => [equalsName]
  | .importEquals i isExport _ => if isExport then [i.name] else []
  | .importFrom _ | .exportNamespace _ | .declaration _ | .statement _ => []

/-- The names a module exports; nothing for a script. -/
def Module.exportedNames (m : Module) : Option (List String) :=
  if m.body.any Item.isModuleItem then some (m.body.flatMap Item.exportedNames) else none

/-! ## The surface of a module -/

/-- The kinds of exports of a module. -/
structure Surface where
  hasDefault : Bool
  /-- Whether anything but a default is exported. -/
  hasNamed : Bool
deriving DecidableEq, Repr, Inhabited

/-- The kinds of some exported names. -/
def Surface.ofNames (names : List String) : Surface :=
  ⟨names.any (· == defaultName), names.any (· != defaultName)⟩

/-- A source of exported names: a symbol table, or the syntax of the file itself. -/
abbrev Oracle := SourceFile → Option (List String)

/-- The oracle that reads the names off the file. -/
def Oracle.syntactic : Oracle := fun f => f.module.exportedNames

/-- The surface of a file according to an oracle. -/
def Oracle.surface (oracle : Oracle) (f : SourceFile) : Option Surface :=
  (oracle f).map Surface.ofNames

end SoleExport
