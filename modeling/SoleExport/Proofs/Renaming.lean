/-
  Renaming of identifiers.

  A function on names renames a tree: it is applied to the value of every real
  identifier, at any depth, and to nothing else; a mere name, such as a property
  after a dot, stays as it is (`Tree.rename`).  Items are renamed by their shape
  (`Item.rename`), which comes to the same.

  * `Tree.identifiers_rename`: the identifiers of a tree are renamed one by one;
  * `Item.toTree_rename`, `Module.toTree_rename`: the tree of an item that is
    renamed by its shape is the renamed tree, so that no identifier is missed;
  * `Module.identifiers_rename`: hence the identifiers of a module are renamed
    one by one, too.
-/
import Mathlib.Tactic.Common
import SoleExport.Proofs.Identifiers

namespace SoleExport

/-! ## Trees -/

namespace Tree

/-- Apply a function to a piece of text. -/
def renameText (s : String → String) : Tree → Tree
  | .str x => .str (s x)
  | t => t

/-- Apply a function to the value among the parts of an identifier. -/
def renameValue (s : String → String) (fs : Fields) : Fields :=
  fs.map fun f => (f.1, if f.1 = "value" then f.2.renameText s else f.2)

mutual
/-- Rename the real identifiers of a tree: the nodes of kind `Identifier` with a
    scope. -/
def rename (s : String → String) : Tree → Tree
  | .list ts => .list (renameList s ts)
  | .node k fs =>
    .node k (if k = "Identifier" ∧ (fs.lookup "ctxt").isSome then
      renameValue s (renameFields s fs) else renameFields s fs)
  | t => t
/-- Rename the real identifiers of some trees. -/
def renameList (s : String → String) : List Tree → List Tree
  | [] => []
  | t :: ts => t.rename s :: renameList s ts
/-- Rename the real identifiers of labelled parts. -/
def renameFields (s : String → String) : Fields → Fields
  | [] => []
  | (l, t) :: fs => (l, t.rename s) :: renameFields s fs
end

variable {s : String → String}

theorem rename_node {k : String} (h : k ≠ "Identifier") (fs : Fields) :
    (node k fs).rename s = node k (renameFields s fs) := by
  rw [rename, if_neg fun hk => h hk.1]

/-- An optional part is renamed if it is there. -/
theorem rename_getD {α : Type} (o : Option α) (f : α → Tree) :
    ((o.map f).getD .null).rename s = (o.map fun a => (f a).rename s).getD .null := by
  cases o <;> rfl

theorem renameList_map {α : Type} (f : α → Tree) (as : List α) :
    renameList s (as.map f) = as.map fun a => (f a).rename s := by
  induction as with
  | nil => rfl
  | cons a as ih => rw [List.map_cons, renameList, ih, List.map_cons]

theorem lookup_renameFields (label : String) (fs : Fields) :
    (renameFields s fs).lookup label = (fs.lookup label).map (rename s) := by
  induction fs with
  | nil => rfl
  | cons f fs ih =>
    obtain ⟨l, t⟩ := f
    rw [renameFields, List.lookup_cons, List.lookup_cons]
    cases label == l with
    | true => rfl
    | false => exact ih

theorem lookup_renameValue (label : String) (fs : Fields) :
    (renameValue s fs).lookup label =
      (fs.lookup label).map fun t => if label = "value" then t.renameText s else t := by
  induction fs with
  | nil => rfl
  | cons f fs ih =>
    obtain ⟨l, t⟩ := f
    rw [renameValue, List.map_cons, List.lookup_cons, List.lookup_cons]
    cases hl : label == l with
    | true => rw [eq_of_beq hl]; rfl
    | false => exact ih

/-! ## Identifiers of a renamed tree -/

theorem identifiers_renameText (t : Tree) : (t.renameText s).identifiers = t.identifiers := by
  cases t <;> rfl

/-- The values of identifiers are texts, in which there are no identifiers. -/
theorem identifiersFields_renameValue (fs : Fields) :
    identifiersFields (renameValue s fs) = identifiersFields fs := by
  induction fs with
  | nil => rfl
  | cons f fs ih =>
    obtain ⟨l, t⟩ := f
    have hpart : (if l = "value" then t.renameText s else t).identifiers = t.identifiers := by
      split_ifs
      · exact t.identifiers_renameText
      · rfl
    rw [renameValue, List.map_cons, identifiersFields, identifiersFields, hpart]
    exact congrArg _ ih

/-- The name of a node is renamed if it is a real identifier. -/
theorem ownName?_rename (k : String) (fs : Fields) :
    ownName? k (renameValue s (renameFields s fs)) = (ownName? k fs).map s := by
  have hctxt : ((renameValue s (renameFields s fs)).lookup "ctxt").isSome =
      (fs.lookup "ctxt").isSome := by
    rw [lookup_renameValue, lookup_renameFields, Option.isSome_map, Option.isSome_map]
  have hvalue : (renameValue s (renameFields s fs)).lookup "value" =
      (fs.lookup "value").map fun t => (t.rename s).renameText s := by
    rw [lookup_renameValue, lookup_renameFields, Option.map_map]; rfl
  rw [ownName?, ownName?, hctxt, hvalue]
  split_ifs with hreal
  · rcases fs.lookup "value" with _ | t
    · rfl
    · cases t <;> rfl
  · rfl

theorem ownName?_of_not_real {k : String} {fs : Fields}
    (h : ¬ (k = "Identifier" ∧ (fs.lookup "ctxt").isSome)) : ownName? k fs = none := if_neg h

mutual
/-- **The identifiers of a tree are renamed one by one.** -/
theorem identifiers_rename (s : String → String) :
    ∀ t : Tree, (t.rename s).identifiers = t.identifiers.map s
  | .null | .bool _ | .num _ | .str _ | .span _ => rfl
  | .list ts => identifiersList_rename s ts
  | .node k fs => by
    have hparts := identifiersFields_rename s fs
    rw [rename, identifiers, identifiers, List.map_append]
    by_cases hreal : k = "Identifier" ∧ (fs.lookup "ctxt").isSome
    · rw [if_pos hreal, ownName?_rename, identifiersFields_renameValue, hparts]
      cases ownName? k fs <;> rfl
    · have hreal' : ¬ (k = "Identifier" ∧ ((renameFields s fs).lookup "ctxt").isSome) := by
        rwa [lookup_renameFields, Option.isSome_map]
      rw [if_neg hreal, ownName?_of_not_real hreal, ownName?_of_not_real hreal', hparts]
      rfl
theorem identifiersList_rename (s : String → String) :
    ∀ ts : List Tree, identifiersList (renameList s ts) = (identifiersList ts).map s
  | [] => rfl
  | t :: ts => by
    rw [renameList, identifiersList, identifiers_rename s t, identifiersList_rename s ts,
      identifiersList, List.map_append]
theorem identifiersFields_rename (s : String → String) :
    ∀ fs : Fields, identifiersFields (renameFields s fs) = (identifiersFields fs).map s
  | [] => rfl
  | (l, t) :: fs => by
    rw [renameFields, identifiersFields, identifiers_rename s t, identifiersFields_rename s fs,
      identifiersFields, List.map_append]
end

end Tree

/-! ## Renaming by shape -/

/-- Rename an identifier. -/
def Ident.rename (s : String → String) (i : Ident) : Ident := { i with name := s i.name }

/-- Rename the identifiers of an expression. -/
def Expr.rename (s : String → String) : Expr → Expr
  | .ident i => .ident (i.rename s)
  | .paren span e => .paren span (e.rename s)
  | .other t => .other (t.rename s)

mutual
/-- Rename the identifiers of a pattern. -/
def Pattern.rename (s : String → String) : Pattern → Pattern
  | .hole => .hole
  | .ident i a => .ident (i.rename s) (a.rename s)
  | .array ps fs => .array (Pattern.renameList s ps) (Tree.renameFields s fs)
  | .object qs fs => .object (PatternProperty.renameList s qs) (Tree.renameFields s fs)
  | .rest p fs => .rest (p.rename s) (Tree.renameFields s fs)
  | .assign p fs => .assign (p.rename s) (Tree.renameFields s fs)
  | .other t => .other (t.rename s)
/-- Rename the identifiers of some patterns. -/
def Pattern.renameList (s : String → String) : List Pattern → List Pattern
  | [] => []
  | p :: ps => p.rename s :: Pattern.renameList s ps
/-- Rename the identifiers of a property of an object pattern. -/
def PatternProperty.rename (s : String → String) : PatternProperty → PatternProperty
  | .keyValue p fs => .keyValue (p.rename s) (Tree.renameFields s fs)
  | .shorthand i a fs => .shorthand (i.rename s) (a.rename s) (Tree.renameFields s fs)
  | .rest p fs => .rest (p.rename s) (Tree.renameFields s fs)
  | .other t => .other (t.rename s)
/-- Rename the identifiers of some properties. -/
def PatternProperty.renameList (s : String → String) : List PatternProperty → List PatternProperty
  | [] => []
  | q :: qs => q.rename s :: PatternProperty.renameList s qs
end

/-- Rename the identifiers of a function or a class. -/
def Definition.rename (s : String → String) (d : Definition) : Definition :=
  { d with parts := Tree.renameFields s d.parts }

/-- Rename the identifiers of a declarator. -/
def Declarator.rename (s : String → String) (d : Declarator) : Declarator :=
  { d with target := d.target.rename s, init := d.init.map (Expr.rename s) }

/-- Rename the identifiers of a declaration. -/
def Declaration.rename (s : String → String) : Declaration → Declaration
  | .definition i declare d => .definition (i.rename s) declare (d.rename s)
  | .variable v => .variable { v with declarators := v.declarators.map (Declarator.rename s) }
  | .named sort i fs => .named sort (i.rename s) (Tree.renameFields s fs)
  | .other t => .other (t.rename s)

/-- Rename the identifiers of an export name. -/
def ExportName.rename (s : String → String) : ExportName → ExportName
  | .ident i => .ident (i.rename s)
  | .literal t => .literal (t.rename s)

/-- Rename the identifiers of an entry `orig as exported`. -/
def NamedSpecifier.rename (s : String → String) (n : NamedSpecifier) : NamedSpecifier :=
  { n with orig := n.orig.rename s, exported := n.exported.map (ExportName.rename s) }

/-- Rename the identifiers of an entry of an export list. -/
def Specifier.rename (s : String → String) : Specifier → Specifier
  | .named n => .named (n.rename s)
  | .wildcard span n => .wildcard span (n.rename s)
  | .default i => .default (i.rename s)

/-- Rename the identifiers of an export list. -/
def ExportList.rename (s : String → String) (l : ExportList) : ExportList :=
  { l with
    specifiers := l.specifiers.map (Specifier.rename s)
    source := l.source.map (Tree.rename s)
    attributes := l.attributes.rename s }

/-- Rename the identifiers of an item. -/
def Item.rename (s : String → String) : Item → Item
  | .importFrom t => .importFrom (t.rename s)
  | .importEquals i isExport fs => .importEquals (i.rename s) isExport (Tree.renameFields s fs)
  | .exportDeclaration span d => .exportDeclaration span (d.rename s)
  | .exportList l => .exportList (l.rename s)
  | .defaultDefinition span n d => .defaultDefinition span (n.map (Ident.rename s)) (d.rename s)
  | .defaultInterface span t => .defaultInterface span (t.rename s)
  | .defaultExpr span e => .defaultExpr span (e.rename s)
  | .exportAll t => .exportAll (t.rename s)
  | .exportEquals span e => .exportEquals span (e.rename s)
  | .exportNamespace t => .exportNamespace (t.rename s)
  | .declaration d => .declaration (d.rename s)
  | .statement t => .statement (t.rename s)

/-- Rename the identifiers of a module. -/
def Module.rename (s : String → String) (m : Module) : Module :=
  { m with body := m.body.map (Item.rename s) }

/-- Rename the identifiers of a file. -/
def SourceFile.rename (s : String → String) (f : SourceFile) : SourceFile :=
  { f with module := f.module.rename s }

/-! ## Trees of what is renamed -/

section
variable (s : String → String)

@[simp] theorem Ident.toTree_rename (i : Ident) : (i.rename s).toTree = i.toTree.rename s := by
  simp [toTree, toFields, Ident.rename, Tree.rename, Tree.renameFields, Tree.renameValue,
    Tree.renameText, List.lookup_cons]

@[simp] theorem Ident.toBinding_rename (i : Ident) (a : Tree) :
    (i.rename s).toBinding (a.rename s) = (i.toBinding a).rename s := by
  simp [toBinding, toFields, Ident.rename, Tree.rename, Tree.renameFields, Tree.renameValue,
    Tree.renameText, List.lookup_cons]

@[simp] theorem Expr.toTree_rename (e : Expr) : (e.rename s).toTree = e.toTree.rename s := by
  induction e with
  | ident i => exact i.toTree_rename s
  | paren span e ih =>
    rw [Expr.rename, toTree, toTree, ih, Tree.rename_node (by decide)]
    rfl
  | other t => rfl

mutual
theorem Pattern.toTree_rename : ∀ p : Pattern, (p.rename s).toTree = p.toTree.rename s
  | .hole => rfl
  | .ident i a => i.toBinding_rename s a
  | .array ps fs => by
    rw [Pattern.rename, Pattern.toTree, Pattern.toTrees_rename ps, Pattern.toTree,
      Tree.rename_node (by decide)]
    rfl
  | .object qs fs => by
    rw [Pattern.rename, Pattern.toTree, PatternProperty.toTrees_rename qs, Pattern.toTree,
      Tree.rename_node (by decide)]
    rfl
  | .rest p fs => by
    rw [Pattern.rename, Pattern.toTree, Pattern.toTree_rename p, Pattern.toTree,
      Tree.rename_node (by decide)]
    rfl
  | .assign p fs => by
    rw [Pattern.rename, Pattern.toTree, Pattern.toTree_rename p, Pattern.toTree,
      Tree.rename_node (by decide)]
    rfl
  | .other t => rfl
theorem Pattern.toTrees_rename :
    ∀ ps : List Pattern, Pattern.toTrees (Pattern.renameList s ps) =
      Tree.renameList s (Pattern.toTrees ps)
  | [] => rfl
  | p :: ps => by
    rw [Pattern.renameList, Pattern.toTrees, Pattern.toTree_rename p, Pattern.toTrees_rename ps]
    rfl
theorem PatternProperty.toTree_rename :
    ∀ q : PatternProperty, (q.rename s).toTree = q.toTree.rename s
  | .keyValue p fs => by
    rw [PatternProperty.rename, PatternProperty.toTree, Pattern.toTree_rename p,
      PatternProperty.toTree, Tree.rename_node (by decide)]
    rfl
  | .shorthand i a fs => by
    rw [PatternProperty.rename, PatternProperty.toTree, i.toBinding_rename s a,
      PatternProperty.toTree, Tree.rename_node (by decide)]
    rfl
  | .rest p fs => by
    rw [PatternProperty.rename, PatternProperty.toTree, Pattern.toTree_rename p,
      PatternProperty.toTree, Tree.rename_node (by decide)]
    rfl
  | .other t => rfl
theorem PatternProperty.toTrees_rename :
    ∀ qs : List PatternProperty, PatternProperty.toTrees (PatternProperty.renameList s qs) =
      Tree.renameList s (PatternProperty.toTrees qs)
  | [] => rfl
  | q :: qs => by
    rw [PatternProperty.renameList, PatternProperty.toTrees, PatternProperty.toTree_rename q,
      PatternProperty.toTrees_rename qs]
    rfl
end

theorem Definition.toTree_rename (d : Definition) (n : Option Ident) :
    (d.rename s).toTree (n.map (Ident.rename s)) = (d.toTree n).rename s := by
  rw [toTree, toTree, Tree.rename_node d.sort.expressionKind_ne]
  cases n <;> simp [Definition.rename, Tree.renameFields, Tree.rename]

theorem Declarator.toTree_rename (d : Declarator) : (d.rename s).toTree = d.toTree.rename s := by
  rw [toTree, toTree, Tree.rename_node (by decide)]
  simp [Declarator.rename, Tree.renameFields, Tree.rename, Tree.rename_getD,
    Pattern.toTree_rename, Function.comp_def]

theorem Declaration.toTree_rename (d : Declaration) : (d.rename s).toTree = d.toTree.rename s := by
  cases d with
  | definition i declare d =>
    rw [Declaration.rename, toTree, toTree, Tree.rename_node d.sort.declarationKind_ne]
    simp [Definition.rename, Tree.renameFields, Tree.rename]
  | «variable» v =>
    rw [Declaration.rename, toTree, toTree, Tree.rename_node (by decide)]
    simp [Tree.renameFields, Tree.rename, Tree.renameList_map, Declarator.toTree_rename]
  | named sort i fs =>
    rw [Declaration.rename, toTree, toTree, Tree.rename_node sort.kind_ne]
    simp [Tree.renameFields]
  | other t => rfl

@[simp] theorem ExportName.toTree_rename (n : ExportName) :
    (n.rename s).toTree = n.toTree.rename s := by
  cases n with
  | ident i => exact i.toTree_rename s
  | literal t => rfl

theorem Specifier.toTree_rename (e : Specifier) : (e.rename s).toTree = e.toTree.rename s := by
  cases e with
  | named n =>
    rw [Specifier.rename, toTree, toTree, Tree.rename_node (by decide)]
    simp [NamedSpecifier.rename, Tree.renameFields, Tree.rename, Tree.rename_getD,
      Function.comp_def]
  | wildcard span n =>
    rw [Specifier.rename, toTree, toTree, Tree.rename_node (by decide)]
    simp [Tree.renameFields, Tree.rename]
  | default i =>
    rw [Specifier.rename, toTree, toTree, Tree.rename_node (by decide)]
    simp [Tree.renameFields]

theorem ExportList.toTree_rename (l : ExportList) : (l.rename s).toTree = l.toTree.rename s := by
  have hsource : (l.source.map (Tree.rename s)).getD .null = (l.source.getD .null).rename s := by
    cases l.source <;> rfl
  rw [toTree, toTree, Tree.rename_node (by decide)]
  simp [ExportList.rename, Tree.renameFields, Tree.rename, Tree.renameList_map, hsource,
    Specifier.toTree_rename]

/-- **No identifier of an item is missed**, at any depth of its tree. -/
theorem Item.toTree_rename (item : Item) : (item.rename s).toTree = item.toTree.rename s := by
  cases item with
  | importFrom t | exportAll t | exportNamespace t | statement t => rfl
  | exportList l => exact l.toTree_rename s
  | declaration d => exact d.toTree_rename s
  | importEquals i isExport fs | exportDeclaration span d | defaultDefinition span n d
  | defaultInterface span t | defaultExpr span e | exportEquals span e =>
    rw [Item.rename, toTree, toTree, Tree.rename_node (by decide)]
    simp [Tree.renameFields, Tree.rename, Declaration.toTree_rename, Definition.toTree_rename]

/-- **No identifier of a module is missed.** -/
theorem Module.toTree_rename (m : Module) : (m.rename s).toTree = m.toTree.rename s := by
  have hinterpreter : ((m.interpreter.map Tree.str).getD .null).rename s =
      (m.interpreter.map Tree.str).getD .null := by
    cases m.interpreter <;> rfl
  rw [toTree, toTree, Tree.rename_node (by decide)]
  simp [Module.rename, Tree.renameFields, Tree.rename, Tree.renameList_map, hinterpreter,
    Item.toTree_rename]

/-- **The identifiers of a module are renamed one by one.** -/
theorem Module.identifiers_rename (m : Module) :
    (m.rename s).identifiers = m.identifiers.map s := by
  rw [← Module.identifiers_toTree, Module.toTree_rename, Tree.identifiers_rename,
    Module.identifiers_toTree]

end

end SoleExport
