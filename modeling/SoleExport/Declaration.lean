/-
  Declarations.

  A declaration introduces names: a function, a class, variables, or one of the
  type-level forms.  Functions and classes share a shape: a *definition* (what
  is defined) under a name; it is the same definition whether it stands in a
  declaration or behind `export default`.
-/
import SoleExport.Pattern

namespace SoleExport

/-! ## Definitions -/

/-- The two sorts of things a default export can define. -/
inductive DefinitionSort where
  | ofFunction
  | ofClass
deriving DecidableEq, Repr, Inhabited

/-- The node kind of a definition behind `export default`. -/
def DefinitionSort.expressionKind : DefinitionSort → String
  | .ofFunction => "FunctionExpression"
  | .ofClass => "ClassExpression"

/-- The node kind of a definition as a declaration. -/
def DefinitionSort.declarationKind : DefinitionSort → String
  | .ofFunction => "FunctionDeclaration"
  | .ofClass => "ClassDeclaration"

/-- A function or a class without its name: parameters and body, or heritage and
    members. -/
structure Definition where
  sort : DefinitionSort
  span : Span
  /-- All that is defined. -/
  parts : Fields
deriving DecidableEq, Repr, Inhabited

/-! ## Variables -/

/-- One `pattern = init` of a variable declaration. -/
structure Declarator where
  span : Span
  target : Pattern
  init : Option Expr
  definite : Bool

/-- `var`, `let` or `const` with its declarators. -/
structure VariableDeclaration where
  span : Span
  ctxt : Nat
  keyword : String
  declare : Bool
  declarators : List Declarator

/-! ## Declarations -/

/-- The sorts of declarations with a name of their own, functions and classes
    aside. -/
inductive NamedSort where
  | ofInterface
  | ofAlias
  | ofEnum
  | ofNamespace
deriving DecidableEq, Repr, Inhabited

/-- The node kind of a declaration with a name of its own. -/
def NamedSort.kind : NamedSort → String
  | .ofInterface => "TsInterfaceDeclaration"
  | .ofAlias => "TsTypeAliasDeclaration"
  | .ofEnum => "TsEnumDeclaration"
  | .ofNamespace => "TsModuleDeclaration"

/-- A declaration. -/
inductive Declaration where
  /-- `function f() {}`, `class C {}` -/
  | definition (name : Ident) (declare : Bool) (body : Definition)
  /-- `const a = 1, b = 2` -/
  | variable (v : VariableDeclaration)
  /-- an interface, a type alias, an enum or a namespace of the given name -/
  | named (sort : NamedSort) (id : Ident) (others : Fields)
  /-- a declaration that binds no exportable name, such as `using x = e` or
      `declare module "m"` -/
  | other (tree : Tree)

/-- The names a declaration introduces. -/
def Declaration.names : Declaration → List String
  | .definition i _ _ => [i.name]
  | .variable v => v.declarators.flatMap fun d => d.target.names
  | .named _ i _ => [i.name]
  | .other _ => []

/-- The name of a function or class declaration. -/
def Declaration.definitionName? : Declaration → Option Ident
  | .definition i _ _ => some i
  | _ => none

/-- Where a declaration was written. -/
def Declaration.span : Declaration → Span
  | .definition _ _ d => d.span
  | .variable v => v.span
  | .named _ _ fs => (Tree.spanOf? fs).getD Span.dummy
  | .other t => t.range

/-- The names of the real identifiers of a declarator. -/
def Declarator.identifiers (d : Declarator) : List String :=
  d.target.identifiers ++ (d.init.map Expr.identifiers).getD []

/-- The names of the real identifiers of a declaration. -/
def Declaration.identifiers : Declaration → List String
  | .definition i _ d => i.name :: Tree.identifiersFields d.parts
  | .variable v => v.declarators.flatMap Declarator.identifiers
  | .named _ i fs => i.name :: Tree.identifiersFields fs
  | .other t => t.identifiers

/-! ## Trees of declarations -/

/-- The tree of a definition that stands behind `export default`. -/
def Definition.toTree (d : Definition) (name : Option Ident) : Tree :=
  .node d.sort.expressionKind
    (("span", .span d.span) :: ("identifier", (name.map Ident.toTree).getD .null) :: d.parts)

/-- The tree of a declarator. -/
def Declarator.toTree (d : Declarator) : Tree :=
  .node "VariableDeclarator"
    [("span", .span d.span), ("id", d.target.toTree),
      ("init", (d.init.map Expr.toTree).getD .null), ("definite", .bool d.definite)]

/-- The tree of a declaration. -/
def Declaration.toTree : Declaration → Tree
  | .definition i declare d =>
    .node d.sort.declarationKind
      (("span", .span d.span) :: ("identifier", i.toTree) :: ("declare", .bool declare) :: d.parts)
  | .variable v =>
    .node "VariableDeclaration"
      [("span", .span v.span), ("ctxt", .num ⟨v.ctxt, 0⟩), ("kind", .str v.keyword),
        ("declare", .bool v.declare), ("declarations", .list (v.declarators.map Declarator.toTree))]
  | .named sort i fs => .node sort.kind (("id", i.toTree) :: fs)
  | .other t => t

/-- The sort of definition a node kind stands for behind `export default`. -/
def DefinitionSort.ofExpressionKind? : String → Option DefinitionSort
  | "FunctionExpression" => some .ofFunction
  | "ClassExpression" => some .ofClass
  | _ => none

/-- The sort of definition a node kind stands for as a declaration. -/
def DefinitionSort.ofDeclarationKind? : String → Option DefinitionSort
  | "FunctionDeclaration" => some .ofFunction
  | "ClassDeclaration" => some .ofClass
  | _ => none

/-- The sort of declaration a node kind stands for, if it has a name of its own. -/
def NamedSort.ofKind? : String → Option NamedSort
  | "TsInterfaceDeclaration" => some .ofInterface
  | "TsTypeAliasDeclaration" => some .ofAlias
  | "TsEnumDeclaration" => some .ofEnum
  | "TsModuleDeclaration" => some .ofNamespace
  | _ => none

/-- The definition behind `export default`, with its name if it has one. -/
def Definition.ofTree? (t : Tree) : Option (Option Ident × Definition) := do
  let sort ← DefinitionSort.ofExpressionKind? t.kind
  let span ← Tree.spanOf? t.fields
  let parts := Tree.without ["span", "identifier"] t.fields
  match ← t.field? "identifier" with
  | .null => return (none, ⟨sort, span, parts⟩)
  | i => return (some (← Ident.ofTree? i), ⟨sort, span, parts⟩)

/-- The declarator with the given tree. -/
def Declarator.ofTree? (t : Tree) : Option Declarator := do
  let span ← Tree.spanOf? t.fields
  let id ← t.field? "id"
  let init := match t.get "init" with
    | .null => none
    | e => some (Expr.ofTree e)
  return ⟨span, Pattern.ofTree id, init, t.flag "definite"⟩

/-- The declaration of variables with the given tree. -/
def VariableDeclaration.ofTree? (t : Tree) : Option VariableDeclaration :=
  match Tree.spanOf? t.fields, t.get "ctxt", t.text? "kind",
      (t.seq "declarations").mapM Declarator.ofTree? with
  | some span, .num ⟨.ofNat ctxt, 0⟩, some keyword, some ds =>
    some ⟨span, ctxt, keyword, t.flag "declare", ds⟩
  | _, _, _, _ => none

/-- The function or class declaration with the given tree. -/
def Declaration.ofDefinition? (t : Tree) : Option Declaration := do
  let sort ← DefinitionSort.ofDeclarationKind? t.kind
  let span ← Tree.spanOf? t.fields
  let i ← Ident.ofTree? (← t.field? "identifier")
  return .definition i (t.flag "declare")
    ⟨sort, span, Tree.without ["span", "identifier", "declare"] t.fields⟩

/-- The declaration with a name of its own with the given tree. -/
def Declaration.ofNamed? (t : Tree) : Option Declaration := do
  let sort ← NamedSort.ofKind? t.kind
  let i ← Ident.ofTree? (← t.field? "id")
  return .named sort i (Tree.without ["id"] t.fields)

/-- The declaration with the given tree, if its names matter. -/
def Declaration.ofTree? (t : Tree) : Option Declaration :=
  if t.kind = "VariableDeclaration" then (VariableDeclaration.ofTree? t).map .variable
  else (Declaration.ofDefinition? t).or (Declaration.ofNamed? t)

/-- The declaration with the given tree. -/
def Declaration.ofTree (t : Tree) : Declaration := (ofTree? t).getD (.other t)

end SoleExport
