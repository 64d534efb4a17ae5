/-
  The identifiers of an item are those of its tree.

  `Item.identifiers` lists the real identifiers of an item by its shape.
  `Tree.identifiers` does so for any tree, without a look at what the nodes
  mean; the two agree (`Item.identifiers_toTree`), so that no identifier at any
  depth is missed (`Module.identifiers_toTree`).
-/
import SoleExport.SourceFile

namespace SoleExport

/-! ## Leaves -/

@[simp] theorem Ident.identifiers_toTree (i : Ident) : i.toTree.identifiers = [i.name] := by
  simp [toTree, toFields, Tree.identifiers, Tree.identifiersFields, Tree.ownName?, List.lookup_cons]

@[simp] theorem Ident.identifiers_toBinding (i : Ident) (a : Tree) :
    (i.toBinding a).identifiers = i.name :: a.identifiers := by
  simp [toBinding, toFields, Tree.identifiers, Tree.identifiersFields, Tree.ownName?, List.lookup_cons]

@[simp] theorem Expr.identifiers_toTree (e : Expr) : e.toTree.identifiers = e.identifiers := by
  induction e with
  | ident i => exact i.identifiers_toTree
  | paren s e ih =>
    simp [toTree, identifiers, Tree.identifiers, Tree.identifiersFields, Tree.ownName?, ih]
  | other t => rfl

/-- The identifiers of an optional part. -/
theorem Tree.identifiers_getD {α : Type} (o : Option α) (f : α → Tree) :
    ((o.map f).getD .null).identifiers = (o.map fun a => (f a).identifiers).getD [] := by
  cases o <;> rfl

theorem Tree.identifiersList_map {α : Type} (f : α → Tree) (as : List α) :
    Tree.identifiersList (as.map f) = as.flatMap fun a => (f a).identifiers := by
  induction as with
  | nil => rfl
  | cons a as ih => simp [Tree.identifiersList, ih]

/-- A node that is no identifier has those of its parts. -/
theorem Tree.identifiers_node {k : String} (h : k ≠ "Identifier") (fs : Fields) :
    (Tree.node k fs).identifiers = Tree.identifiersFields fs := by
  simp [Tree.identifiers, Tree.ownName?, h]

/-! ## Patterns -/

mutual
theorem Pattern.identifiers_toTree : ∀ p : Pattern, p.toTree.identifiers = p.identifiers
  | .hole => rfl
  | .ident i a => i.identifiers_toBinding a
  | .array ps fs => by
    rw [Pattern.toTree, Tree.identifiers_node (by decide), Tree.identifiersFields, Tree.identifiers,
      Pattern.identifiers_toTrees ps, Pattern.identifiers]
  | .object qs fs => by
    rw [Pattern.toTree, Tree.identifiers_node (by decide), Tree.identifiersFields, Tree.identifiers,
      PatternProperty.identifiers_toTrees qs, Pattern.identifiers]
  | .rest p fs => by
    rw [Pattern.toTree, Tree.identifiers_node (by decide), Tree.identifiersFields,
      Pattern.identifiers_toTree p, Pattern.identifiers]
  | .assign p fs => by
    rw [Pattern.toTree, Tree.identifiers_node (by decide), Tree.identifiersFields,
      Pattern.identifiers_toTree p, Pattern.identifiers]
  | .other t => rfl
theorem Pattern.identifiers_toTrees :
    ∀ ps : List Pattern, Tree.identifiersList (Pattern.toTrees ps) = Pattern.identifiersList ps
  | [] => rfl
  | p :: ps => by
    rw [Pattern.toTrees, Tree.identifiersList, Pattern.identifiers_toTree p,
      Pattern.identifiers_toTrees ps, Pattern.identifiersList]
theorem PatternProperty.identifiers_toTree :
    ∀ q : PatternProperty, q.toTree.identifiers = q.identifiers
  | .keyValue p fs => by
    rw [PatternProperty.toTree, Tree.identifiers_node (by decide), Tree.identifiersFields,
      Pattern.identifiers_toTree p, PatternProperty.identifiers]
  | .shorthand i a fs => by
    rw [PatternProperty.toTree, Tree.identifiers_node (by decide), Tree.identifiersFields,
      Ident.identifiers_toBinding, PatternProperty.identifiers, List.cons_append]
  | .rest p fs => by
    rw [PatternProperty.toTree, Tree.identifiers_node (by decide), Tree.identifiersFields,
      Pattern.identifiers_toTree p, PatternProperty.identifiers]
  | .other t => rfl
theorem PatternProperty.identifiers_toTrees :
    ∀ qs : List PatternProperty,
      Tree.identifiersList (PatternProperty.toTrees qs) = PatternProperty.identifiersList qs
  | [] => rfl
  | q :: qs => by
    rw [PatternProperty.toTrees, Tree.identifiersList, PatternProperty.identifiers_toTree q,
      PatternProperty.identifiers_toTrees qs, PatternProperty.identifiersList]
end

/-! ## Declarations -/

theorem DefinitionSort.declarationKind_ne (s : DefinitionSort) :
    s.declarationKind ≠ "Identifier" := by
  cases s <;> decide

theorem DefinitionSort.expressionKind_ne (s : DefinitionSort) :
    s.expressionKind ≠ "Identifier" := by
  cases s <;> decide

theorem NamedSort.kind_ne (s : NamedSort) : s.kind ≠ "Identifier" := by
  cases s <;> decide

theorem Declarator.identifiers_toTree (d : Declarator) :
    d.toTree.identifiers = d.identifiers := by
  rw [toTree, Tree.identifiers_node (by decide)]
  simp [Tree.identifiersFields, Tree.identifiers_getD, Tree.identifiers,
    Pattern.identifiers_toTree, identifiers]

theorem Definition.identifiers_toTree (d : Definition) (n : Option Ident) :
    (d.toTree n).identifiers = (n.map Ident.name).toList ++ Tree.identifiersFields d.parts := by
  rw [toTree, Tree.identifiers_node d.sort.expressionKind_ne]
  cases n <;> simp [Tree.identifiersFields, Tree.identifiers]

theorem Declaration.identifiers_toTree (d : Declaration) :
    d.toTree.identifiers = d.identifiers := by
  cases d with
  | definition i declare d =>
    rw [toTree, Tree.identifiers_node d.sort.declarationKind_ne]
    simp [Tree.identifiersFields, Tree.identifiers, identifiers]
  | «variable» v =>
    rw [toTree, Tree.identifiers_node (by decide)]
    simp [Tree.identifiersFields, Tree.identifiers, Tree.identifiersList_map,
      Declarator.identifiers_toTree, identifiers]
  | named sort i fs =>
    rw [toTree, Tree.identifiers_node sort.kind_ne]
    simp [Tree.identifiersFields, identifiers]
  | other t => rfl

/-! ## Items -/

theorem ExportName.identifiers_toTree (n : ExportName) :
    n.toTree.identifiers = n.identifiers := by
  cases n with
  | ident i => exact i.identifiers_toTree
  | literal t => rfl

theorem Specifier.identifiers_toTree (s : Specifier) : s.toTree.identifiers = s.identifiers := by
  cases s with
  | named s =>
    rw [toTree, Tree.identifiers_node (by decide)]
    simp [Tree.identifiersFields, Tree.identifiers, Tree.identifiers_getD,
      ExportName.identifiers_toTree, identifiers]
  | wildcard s n =>
    rw [toTree, Tree.identifiers_node (by decide)]
    simp [Tree.identifiersFields, Tree.identifiers, ExportName.identifiers_toTree, identifiers]
  | default i =>
    rw [toTree, Tree.identifiers_node (by decide)]
    simp [Tree.identifiersFields, identifiers]

theorem ExportList.identifiers_toTree (l : ExportList) :
    l.toTree.identifiers = l.identifiers := by
  rw [toTree, Tree.identifiers_node (by decide)]
  have hsource : (l.source.getD .null).identifiers = (l.source.map Tree.identifiers).getD [] := by
    cases l.source <;> rfl
  simp [Tree.identifiersFields, Tree.identifiers, Tree.identifiersList_map, hsource,
    Specifier.identifiers_toTree, identifiers]

/-- **No identifier of an item is missed**, at any depth of its tree. -/
theorem Item.identifiers_toTree (item : Item) : item.toTree.identifiers = item.identifiers := by
  cases item with
  | importFrom t | exportAll t | exportNamespace t | statement t => rfl
  | exportList l => exact l.identifiers_toTree
  | declaration d => exact d.identifiers_toTree
  | importEquals i isExport fs | exportDeclaration s d | defaultDefinition s n d
  | defaultInterface s t | defaultExpr s e | exportEquals s e =>
    rw [toTree, Tree.identifiers_node (by decide)]
    simp [Tree.identifiersFields, Tree.identifiers, Declaration.identifiers_toTree,
      Definition.identifiers_toTree, identifiers]

/-- **No identifier of a module is missed.** -/
theorem Module.identifiers_toTree (m : Module) : m.toTree.identifiers = m.identifiers := by
  rw [toTree, Tree.identifiers_node (by decide)]
  have hinterpreter : ((m.interpreter.map Tree.str).getD .null).identifiers = [] := by
    cases m.interpreter <;> rfl
  simp [Tree.identifiersFields, Tree.identifiers, hinterpreter, Tree.identifiersList_map,
    Item.identifiers_toTree, identifiers]

end SoleExport
