/-
  Which items are named, and how.

  A default export may have no name that an `export =` could designate: a function
  or a class without one, an expression that is bound to a constant, a string
  literal in the place of a local name.  `Item.needsName` says so of an item, and
  the conversion of a body gives the fresh names to just these items, in their
  order.

  * `Item.convert_names`, `Item.generatedNames_convert`: what one item draws, and
    what it is called by;
  * `Item.convertAll_getElem?`, `Item.drawn_convertAll`: where the items of a body
    stand in the order of the fresh names;
  * `SourceFile.names_in_order`: hence the `j`-th item that needs a name gets the
    `j`-th free one.
-/
import SoleExport.Proofs.Capture
import SoleExport.Proofs.DefaultForms
import SoleExport.Proofs.FreshNumbers

namespace SoleExport

/-! ## Items that need a name -/

/-- Whether an item has a default export without a name, which has to be given
    one.  An expression needs it only if it is bound to a constant. -/
def Item.needsName (mode : Mode) : Item → Bool
  | .exportList l => l.source.isNone && (Item.exportList l).hasLiteralDefault
  | .defaultDefinition _ name _ => name.isNone
  | .defaultExpr _ e => e.ident?.isNone && mode.options.keepDefault && !mode.ambient
  | _ => false

section
variable {mode : Mode}

theorem Item.needsName_of_split {l : ExportList} {d : NamedSpecifier} {others : List Specifier}
    (hs : l.source = none) (hd : Specifier.splitDefault l.specifiers = some (d, others)) :
    (Item.exportList l).needsName mode = d.orig.ident?.isNone := by
  rw [needsName, hs, ExportList.hasLiteralDefault_of_split hd]
  rfl

/-- A list has a default entry only if a rule converts it. -/
theorem ExportList.hasDefaultRename_of_literal {l : ExportList}
    (h : (Item.exportList l).hasLiteralDefault = true) : l.hasDefaultRename = true := by
  rw [hasDefaultRename, List.any_eq_true]
  rw [Item.hasLiteralDefault, Option.any_eq_true_iff_get] at h
  obtain ⟨hsome, -⟩ := h
  obtain ⟨d, hd⟩ := Option.isSome_iff_exists.1 hsome
  obtain ⟨s, hs, hr⟩ := List.exists_of_findSome?_eq_some hd
  refine ⟨s, hs, ?_⟩
  rw [← s.defaultRename?_isSome, hr]
  rfl

/-- Only items that are converted need a name. -/
theorem Item.isConvertible_of_needsName {item : Item} (h : item.needsName mode = true) :
    item.isConvertible = true := by
  cases item with
  | exportList l =>
    rw [needsName, Bool.and_eq_true] at h
    rw [isConvertible, h.1, ExportList.hasDefaultRename_of_literal h.2]
    rfl
  | defaultDefinition | defaultExpr => rfl
  | _ => cases h

/-! ## One item -/

variable {g g' : FreshNames} {item : Item} {e : Event} {items : List Item}

/-- **A conversion draws a name iff its item needs one.** -/
theorem Converted.names_eq (h : Converted mode g item e items g') :
    g' = if item.needsName mode then g.next.2 else g := by
  cases h with
  | @list l d others i _ hs hd hg =>
    rw [Item.needsName_of_split hs hd]
    generalize d.orig.ident? = o at hg
    cases hg <;> rfl
  | definition hg => cases hg <;> rfl
  | ident he => rw [Item.needsName, he]; rfl
  | value he hk => rw [Item.needsName, hk, Bool.and_false]; rfl
  | repeated he hk ha => rw [Item.needsName, ha, Bool.not_true, Bool.and_false]; rfl
  | hoisted he hk ha hg =>
    rw [Item.needsName, he, hk, ha]
    cases hg
    rfl

/-- Where an item needs a name, `export =` designates the one that is drawn. -/
theorem Converted.equalsName_eq (h : Converted mode g item e items g')
    (hn : item.needsName mode = true) : items.filterMap Item.equalsName? = [g.next.1] := by
  cases h with
  | @list l d others i _ hs hd hg =>
    rw [Item.needsName_of_split hs hd, Option.isNone_iff_eq_none] at hn
    rw [hn] at hg
    cases hg
    rw [List.filterMap_append, l.filterMap_remains fun _ => rfl]
    rfl
  | @definition s n b i _ hg =>
    cases hg with
    | own => cases hn
    | fresh =>
      unfold Mode.kept
      split_ifs <;> rfl
  | ident he => rw [Item.needsName, he] at hn; cases hn
  | value he hk => rw [Item.needsName, hk, Bool.and_false] at hn; cases hn
  | repeated he hk ha => rw [Item.needsName, ha, Bool.not_true, Bool.and_false] at hn; cases hn
  | hoisted he hk ha hg => cases hg; rfl

end

theorem Item.convert_names (mode : Mode) (g : FreshNames) (item : Item) :
    (item.convert mode g).names = if item.needsName mode then g.next.2 else g := by
  rcases item.convert_cases_of_form mode g with ⟨hkeep, h⟩ | ⟨-, e, items, g', h, hconv⟩
  · have hn : item.needsName mode = false := by
      rw [← Bool.not_eq_true]
      intro hn
      rw [isConvertible_of_needsName hn] at hkeep
      cases hkeep
    rw [h, hn]
    rfl
  · rw [h]
    exact hconv.names_eq

/-- **An item is called by the name that it draws**, and by no other one. -/
theorem Item.generatedNames_convert (mode : Mode) (g : FreshNames) (item : Item) :
    item.generatedNames (item.convert mode g).conversion.items =
      if item.needsName mode then [g.next.1] else [] := by
  have hnames := item.convert_names mode g
  rcases (item.convert_cases mode g).draws with ⟨hgen, hg⟩ | ⟨hgen, hg⟩
  · rw [hgen]
    split_ifs at hnames ⊢ with hn
    · exact absurd (hnames.symm.trans hg) g.next_ne
    · rfl
  · rw [hgen]
    split_ifs at hnames ⊢ with hn
    · rfl
    · exact absurd (hg.symm.trans hnames) g.next_ne

theorem Item.equalsName_convert {mode : Mode} (g : FreshNames) {item : Item}
    (hn : item.needsName mode = true) :
    (item.convert mode g).conversion.items.filterMap equalsName? = [g.next.1] := by
  rcases item.convert_cases_of_form mode g with ⟨hkeep, -⟩ | ⟨-, e, items, g', h, hconv⟩
  · rw [isConvertible_of_needsName hn] at hkeep
    cases hkeep
  · rw [h]
    exact hconv.equalsName_eq hn

/-! ## Bodies -/

/-- The first steps of a body are those of its first items. -/
theorem Item.take_convertAll (mode : Mode) :
    ∀ (body : List Item) (g : FreshNames) (i : Nat),
      (convertAll mode g body).take i = convertAll mode g (body.take i)
  | [], _, i => by rw [List.take_nil, convertAll, List.take_nil]
  | _ :: _, _, 0 => rfl
  | item :: body, g, i + 1 => by
    rw [convertAll, List.take_succ_cons, List.take_succ_cons, convertAll, take_convertAll mode body]

/-- Each item is looked at with the names that the items before it left. -/
theorem Item.getElem?_convertAll (mode : Mode) :
    ∀ (body : List Item) (g : FreshNames) (i : Nat),
      (convertAll mode g body)[i]? = body[i]?.map fun item =>
        item.convert mode (Step.namesAfter g (convertAll mode g (body.take i)))
  | [], _, _ => rfl
  | _ :: _, _, 0 => rfl
  | item :: body, g, i + 1 => by
    rw [convertAll, List.getElem?_cons_succ, List.getElem?_cons_succ, List.take_succ_cons,
      convertAll, Step.namesAfter_cons]
    exact getElem?_convertAll mode body (item.convert mode g).names i

/-- **A body draws a name for each item that needs one.** -/
theorem Item.drawn_convertAll (mode : Mode) {taken : List String} :
    ∀ (body : List Item) {g : FreshNames} {n : Nat}, g.Drawn taken n →
      (Step.namesAfter g (convertAll mode g body)).Drawn taken
        (n + body.countP (needsName mode))
  | [], _, _, h => h
  | item :: body, g, n, h => by
    have hstep : (item.convert mode g).names.Drawn taken
        (n + if item.needsName mode then 1 else 0) := by
      rw [item.convert_names]
      split_ifs
      · exact h.next
      · exact h
    have hrest := drawn_convertAll mode body hstep
    rw [convertAll, Step.namesAfter_cons, List.countP_cons, Nat.add_comm (body.countP _),
      ← Nat.add_assoc]
    exact hrest

/-! ## Files -/

/-- The fresh names that are left when the first `i` items of a file have been
    looked at. -/
def SourceFile.namesBefore (f : SourceFile) (options : Options) (i : Nat) : FreshNames :=
  Step.namesAfter (FreshNames.ofModule f.module) ((f.steps options).take i)

section
variable (f : SourceFile) (options : Options) (i : Nat)

theorem SourceFile.drawn_namesBefore :
    (f.namesBefore options i).Drawn f.module.identifiers
      ((f.module.body.take i).countP (Item.needsName (f.mode options))) := by
  have hdrawn := Item.drawn_convertAll (f.mode options) (f.module.body.take i)
    (FreshNames.drawn_zero f.module.identifiers)
  rw [Nat.zero_add] at hdrawn
  rw [namesBefore, SourceFile.steps, Item.take_convertAll]
  exact hdrawn

theorem SourceFile.getElem?_steps {item : Item} (hi : f.module.body[i]? = some item) :
    (f.steps options)[i]? = some (item.convert (f.mode options) (f.namesBefore options i)) := by
  rw [SourceFile.steps, Item.getElem?_convertAll, hi, namesBefore, SourceFile.steps,
    Item.take_convertAll]
  rfl

/-- **Which items are named, and how.**  An item draws a fresh name just if it
    needs one.  It is then called by it, where it is declared, if it is, and by its
    `export =`.  If `j` of the items before it have drawn one, its name is that of
    the `j`-th number, counted from 0, whose name is none of the identifiers of the
    module. -/
theorem SourceFile.names_in_order {item : Item} (hi : f.module.body[i]? = some item) :
    ∃ step, (f.steps options)[i]? = some step ∧
      ((item.needsName (f.mode options) = false ∧ step.names = f.namesBefore options i ∧
          item.generatedNames step.conversion.items = []) ∨
        (item.needsName (f.mode options) = true ∧
          step.names = (f.namesBefore options i).next.2 ∧
          ∃ k, FreshNames.IsNthFree f.module.toTree.identifiers
              ((f.module.body.take i).countP (Item.needsName (f.mode options))) k ∧
            (f.namesBefore options i).next.1 = FreshNames.spelling k ∧
            item.generatedNames step.conversion.items = [FreshNames.spelling k] ∧
            step.conversion.items.filterMap Item.equalsName? = [FreshNames.spelling k])) := by
  have hnames := item.convert_names (f.mode options) (f.namesBefore options i)
  have hgen := item.generatedNames_convert (f.mode options) (f.namesBefore options i)
  refine ⟨_, f.getElem?_steps options i hi, ?_⟩
  rcases hn : item.needsName (f.mode options) with _ | _
  · rw [hn] at hnames hgen
    exact Or.inl ⟨rfl, hnames, hgen⟩
  · rw [hn] at hnames hgen
    have hnumber := (f.drawn_namesBefore options i).isNthFree
    rw [← Module.identifiers_toTree] at hnumber
    exact Or.inr ⟨rfl, hnames, _, hnumber, rfl, hgen, Item.equalsName_convert _ hn⟩

end

/-- `default_1; export default class {} export default (default_3);
    export { "a" as default }` -/
def SourceFile.unnamedTwice : SourceFile where
  name := "a.ts"
  module := ⟨⟨1, 90⟩, none, [
    .statement (.node "ExpressionStatement" [
      ("span", .span ⟨1, 11⟩), ("expression", (Ident.mk ⟨1, 10⟩ 0 "default_1" false).toTree)]),
    .defaultDefinition ⟨12, 35⟩ none ⟨.ofClass, ⟨27, 35⟩, [("body", .list [])]⟩,
    .defaultExpr ⟨36, 63⟩ (.paren ⟨51, 62⟩ (.ident ⟨⟨52, 61⟩, 0, "default_3", false⟩)),
    .exportList ⟨⟨64, 89⟩, [
      .named ⟨⟨73, 87⟩, .literal (.node "StringLiteral" [
          ("span", .span ⟨73, 76⟩), ("value", .str "a"), ("raw", .str "\"a\"")]),
        some (.ident ⟨⟨80, 87⟩, 0, "default", false⟩), false⟩], none, false, .null⟩]⟩

/-- The class is named past an identifier that is used before it, and the string
    literal past one that is exported between them. -/
theorem SourceFile.names_in_order_unnamedTwice :
    let f := SourceFile.unnamedTwice
    (∃ step item, (f.steps {})[1]? = some step ∧ f.module.body[1]? = some item ∧
      item.generatedNames step.conversion.items = ["default_2"]) ∧
    (∃ step item, (f.steps {})[2]? = some step ∧ f.module.body[2]? = some item ∧
      item.generatedNames step.conversion.items = []) ∧
    ∃ step item, (f.steps {})[3]? = some step ∧ f.module.body[3]? = some item ∧
      step.conversion.items.filterMap Item.equalsName? = ["default_4"] := by
  intro f
  have hclass : FreshNames.IsNthFree f.module.toTree.identifiers 0 2 := ⟨by decide, by decide⟩
  have hliteral : FreshNames.IsNthFree f.module.toTree.identifiers 1 4 :=
    ⟨by decide, by decide⟩
  refine ⟨?_, ?_, ?_⟩
  · obtain ⟨step, hs, ⟨hn, -⟩ | ⟨-, -, k, hk, -, hgen, -⟩⟩ := f.names_in_order {} 1 rfl
    · cases hn
    · obtain rfl := hk.unique hclass
      exact ⟨step, _, hs, rfl, hgen⟩
  · obtain ⟨step, hs, ⟨-, -, hgen⟩ | ⟨hn, -⟩⟩ := f.names_in_order {} 2 rfl
    · exact ⟨step, _, hs, rfl, hgen⟩
    · cases hn
  · obtain ⟨step, hs, ⟨hn, -⟩ | ⟨-, -, k, hk, -, -, hequals⟩⟩ := f.names_in_order {} 3 rfl
    · cases hn
    · obtain rfl := hk.unique hliteral
      exact ⟨step, _, hs, rfl, hequals⟩

end SoleExport
