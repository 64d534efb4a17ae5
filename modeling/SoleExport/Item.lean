/-
  The top level of a module.

  A module body is a sequence of items.  The import and export forms make the
  file a module (`Item.isModuleItem`); every other item is a declaration or a
  statement.  Three forms can hold a default export that the conversion rules
  know: an export list, `export default` with a function or a class, and
  `export default` with an expression.

  `Item.ofTree` and `Item.toTree` relate items to their trees; a tree of an
  unknown shape is carried through as a statement.
-/
import SoleExport.Declaration

namespace SoleExport

/-! ## Export lists -/

/-- A name in an export list. -/
inductive ExportName where
  /-- an identifier -/
  | ident (i : Ident)
  /-- a string literal -/
  | literal (tree : Tree)
deriving DecidableEq, Repr, Inhabited

/-- An entry `orig as exported` of an export list. -/
structure NamedSpecifier where
  span : Span
  orig : ExportName
  exported : Option ExportName
  isTypeOnly : Bool
deriving DecidableEq, Repr, Inhabited

/-- An entry of an export list. -/
inductive Specifier where
  /-- `a`, `a as b` -/
  | named (s : NamedSpecifier)
  /-- `* as ns` -/
  | wildcard (span : Span) (name : ExportName)
  /-- `v` in `export v from "m"` -/
  | default (exported : Ident)
deriving DecidableEq, Repr, Inhabited

/-- `export { a, b as c }`, from another module if there is a source. -/
structure ExportList where
  span : Span
  specifiers : List Specifier
  source : Option Tree
  typeOnly : Bool
  /-- The import attributes of the source. -/
  attributes : Tree
deriving DecidableEq, Repr, Inhabited

/-! ## Items -/

/-- An item of a module body. -/
inductive Item where
  /-- `import … from "m"` -/
  | importFrom (tree : Tree)
  /-- `import x = …`, possibly exported -/
  | importEquals (id : Ident) (isExport : Bool) (others : Fields)
  /-- `export const a = 1` -/
  | exportDeclaration (span : Span) (declaration : Declaration)
  /-- `export { … }` -/
  | exportList (list : ExportList)
  /-- `export default function f() {}`, `export default class {}` -/
  | defaultDefinition (span : Span) (name : Option Ident) (body : Definition)
  /-- `export default interface I {}` -/
  | defaultInterface (span : Span) (tree : Tree)
  /-- `export default e` -/
  | defaultExpr (span : Span) (value : Expr)
  /-- `export * from "m"` -/
  | exportAll (tree : Tree)
  /-- `export = e` -/
  | exportEquals (span : Span) (value : Expr)
  /-- `export as namespace G` -/
  | exportNamespace (tree : Tree)
  /-- a declaration -/
  | declaration (d : Declaration)
  /-- any other statement -/
  | statement (tree : Tree)

namespace Item

/-- Whether an item makes its file a module: it imports or exports. -/
def isModuleItem : Item → Bool
  | .declaration _ | .statement _ => false
  | _ => true

/-- Where an item was written. -/
def span : Item → Span
  | .importFrom t | .exportAll t | .exportNamespace t | .statement t => t.range
  | .importEquals _ _ fs => (Tree.spanOf? fs).getD Span.dummy
  | .exportDeclaration s _ | .defaultDefinition s _ _ | .defaultInterface s _
  | .defaultExpr s _ | .exportEquals s _ => s
  | .exportList l => l.span
  | .declaration d => d.span

end Item

/-! ## Identifiers -/

/-- The names of the real identifiers of an export name. -/
def ExportName.identifiers : ExportName → List String
  | .ident i => [i.name]
  | .literal t => t.identifiers

/-- The names of the real identifiers of an entry. -/
def Specifier.identifiers : Specifier → List String
  | .named s => s.orig.identifiers ++ (s.exported.map ExportName.identifiers).getD []
  | .wildcard _ n => n.identifiers
  | .default i => [i.name]

/-- The names of the real identifiers of an export list. -/
def ExportList.identifiers (l : ExportList) : List String :=
  l.specifiers.flatMap Specifier.identifiers ++ (l.source.map Tree.identifiers).getD [] ++
    l.attributes.identifiers

/-- The names of the real identifiers of an item, at any depth. -/
def Item.identifiers : Item → List String
  | .importFrom t | .exportAll t | .exportNamespace t | .statement t => t.identifiers
  | .importEquals i _ fs => i.name :: Tree.identifiersFields fs
  | .exportDeclaration _ d | .declaration d => d.identifiers
  | .exportList l => l.identifiers
  | .defaultDefinition _ n d => (n.map Ident.name).toList ++ Tree.identifiersFields d.parts
  | .defaultInterface _ t => t.identifiers
  | .defaultExpr _ e | .exportEquals _ e => e.identifiers

/-! ## Trees of items -/

/-- The tree of an export name. -/
def ExportName.toTree : ExportName → Tree
  | .ident i => i.toTree
  | .literal t => t

/-- The export name with the given tree. -/
def ExportName.ofTree (t : Tree) : ExportName :=
  match Ident.ofTree? t with
  | some i => .ident i
  | none => .literal t

/-- The tree of an entry. -/
def Specifier.toTree : Specifier → Tree
  | .named s =>
    .node "ExportSpecifier"
      [("span", .span s.span), ("orig", s.orig.toTree),
        ("exported", (s.exported.map ExportName.toTree).getD .null),
        ("isTypeOnly", .bool s.isTypeOnly)]
  | .wildcard s n =>
    .node "ExportNamespaceSpecifier" [("span", .span s), ("name", n.toTree)]
  | .default i => .node "ExportDefaultSpecifier" [("exported", i.toTree)]

/-- The entry `orig as exported` with the given tree. -/
def NamedSpecifier.ofTree? (t : Tree) : Option NamedSpecifier := do
  let span ← Tree.spanOf? t.fields
  let orig ← t.field? "orig"
  let exported := match t.get "exported" with
    | .null => none
    | e => some (ExportName.ofTree e)
  return ⟨span, ExportName.ofTree orig, exported, t.flag "isTypeOnly"⟩

/-- The entry with the given tree. -/
def Specifier.ofTree? (t : Tree) : Option Specifier :=
  match t.kind with
  | "ExportSpecifier" => (NamedSpecifier.ofTree? t).map .named
  | "ExportNamespaceSpecifier" => do
    return .wildcard (← Tree.spanOf? t.fields) (ExportName.ofTree (← t.field? "name"))
  | "ExportDefaultSpecifier" => (Ident.ofTree? (t.get "exported")).map .default
  | _ => none

/-- The tree of an export list. -/
def ExportList.toTree (l : ExportList) : Tree :=
  .node "ExportNamedDeclaration"
    [("span", .span l.span), ("specifiers", .list (l.specifiers.map Specifier.toTree)),
      ("source", l.source.getD .null), ("typeOnly", .bool l.typeOnly), ("with", l.attributes)]

/-- The export list with the given tree. -/
def ExportList.ofTree? (t : Tree) : Option ExportList := do
  let span ← Tree.spanOf? t.fields
  let specifiers ← (t.seq "specifiers").mapM Specifier.ofTree?
  let source := match t.get "source" with
    | .null => none
    | s => some s
  return ⟨span, specifiers, source, t.flag "typeOnly", t.get "with"⟩

namespace Item

/-- The tree of an item. -/
def toTree : Item → Tree
  | .importFrom t | .exportAll t | .exportNamespace t | .statement t => t
  | .importEquals i isExport fs =>
    .node "TsImportEqualsDeclaration" (("id", i.toTree) :: ("isExport", .bool isExport) :: fs)
  | .exportDeclaration s d =>
    .node "ExportDeclaration" [("span", .span s), ("declaration", d.toTree)]
  | .exportList l => l.toTree
  | .defaultDefinition s n d =>
    .node "ExportDefaultDeclaration" [("span", .span s), ("decl", d.toTree n)]
  | .defaultInterface s t => .node "ExportDefaultDeclaration" [("span", .span s), ("decl", t)]
  | .defaultExpr s e =>
    .node "ExportDefaultExpression" [("span", .span s), ("expression", e.toTree)]
  | .exportEquals s e =>
    .node "TsExportAssignment" [("span", .span s), ("expression", e.toTree)]
  | .declaration d => d.toTree

/-- `export default` with a declaration. -/
def ofDefault? (t : Tree) : Option Item := do
  let s ← Tree.spanOf? t.fields
  let decl ← t.field? "decl"
  match Definition.ofTree? decl with
  | some (n, d) => return .defaultDefinition s n d
  | none => return .defaultInterface s decl

/-- The import or export form with the given tree. -/
def ofModuleItem? (t : Tree) : Option Item :=
  match t.kind with
  | "ImportDeclaration" => some (.importFrom t)
  | "ExportAllDeclaration" => some (.exportAll t)
  | "TsNamespaceExportDeclaration" => some (.exportNamespace t)
  | "ExportNamedDeclaration" => (ExportList.ofTree? t).map .exportList
  | "ExportDefaultDeclaration" => ofDefault? t
  | "ExportDeclaration" => do
    return .exportDeclaration (← Tree.spanOf? t.fields)
      (Declaration.ofTree (← t.field? "declaration"))
  | "ExportDefaultExpression" => do
    return .defaultExpr (← Tree.spanOf? t.fields) (Expr.ofTree (← t.field? "expression"))
  | "TsExportAssignment" => do
    return .exportEquals (← Tree.spanOf? t.fields) (Expr.ofTree (← t.field? "expression"))
  | "TsImportEqualsDeclaration" => do
    return .importEquals (← Ident.ofTree? (t.get "id")) (t.flag "isExport")
      (Tree.without ["id", "isExport"] t.fields)
  | _ => none

/-- The item with the given tree. -/
def ofTree (t : Tree) : Item :=
  match ofModuleItem? t with
  | some i => i
  | none =>
    match Declaration.ofTree? t with
    | some d => .declaration d
    | none => .statement t

end Item

end SoleExport
