/-
  Modules and the files they are read from.

  A file is a declaration file by its name alone: `.d.ts`, `.d.mts` or `.d.cts`.
-/
import SoleExport.Item

namespace SoleExport

/-- A parsed module. -/
structure Module where
  span : Span
  /-- What follows `#!` on the first line. -/
  interpreter : Option String
  body : List Item

namespace Module

/-- The names of the real identifiers of a module, at any depth. -/
def identifiers (m : Module) : List String := m.body.flatMap Item.identifiers

/-- The tree of a module. -/
def toTree (m : Module) : Tree :=
  .node "Module"
    [("span", .span m.span), ("interpreter", (m.interpreter.map Tree.str).getD .null),
      ("body", .list (m.body.map Item.toTree))]

/-- The module with the given tree. -/
def ofTree (t : Tree) : Module :=
  ⟨t.range, t.text? "interpreter", (t.seq "body").map Item.ofTree⟩

end Module

/-- The endings of the names of declaration files. -/
def declarationSuffixes : List String := [".d.ts", ".d.mts", ".d.cts"]

/-- Whether a file name is that of a declaration file. -/
def isDeclarationName (name : String) : Bool :=
  declarationSuffixes.any fun ending => ending.toList.isSuffixOf name.toList

/-- A module with the name of its file. -/
structure SourceFile where
  name : String
  module : Module

/-- Whether the file only declares types. -/
def SourceFile.isDeclaration (f : SourceFile) : Bool := isDeclarationName f.name

end SoleExport
