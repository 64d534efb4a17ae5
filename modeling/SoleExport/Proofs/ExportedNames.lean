/-
  Exported names before and after a conversion.

  Each conversion puts an `export=` in the place of a `default`, or next to it
  if the default export is kept, and leaves every other exported name where it
  was (`Rebalanced`).

  * `Converted.rebalanced`, `Run.rebalanced`: this holds of one item, and adds up over
    a body;
  * `SourceFile.convert_exportedNames`: no export is lost or invented by the
    conversion of a file.
-/
import Mathlib.Algebra.Order.Group.Multiset
import SoleExport.Proofs.Rules

namespace SoleExport

/-! ## The balance of exported names -/

/-- A name other than those that a conversion moves. -/
def isOtherName (name : String) : Bool := name != defaultName && name != equalsName

/-- The exported names `after` come from the names `before` by `k` conversions. -/
structure Rebalanced (keep : Bool) (k : Nat) (before after : List String) : Prop where
  /-- A default export that is kept gets an `export=` beside it. -/
  kept : keep = true →
    (after : Multiset String) = before + Multiset.replicate k equalsName
  /-- A default export that is not kept becomes an `export=`. -/
  moved : keep = false →
    (after : Multiset String) + Multiset.replicate k defaultName =
      before + Multiset.replicate k equalsName
  /-- The other names stay, in their order. -/
  others : after.filter isOtherName = before.filter isOtherName

namespace Rebalanced

variable {keep : Bool} {k k₁ k₂ : Nat} {before after a₁ a₂ b₁ b₂ : List String}

theorem refl (names : List String) : Rebalanced keep 0 names names :=
  ⟨fun _ => by simp, fun _ => by simp, rfl⟩

/-- The balances of two parts of a body add up. -/
theorem append (h₁ : Rebalanced keep k₁ b₁ a₁) (h₂ : Rebalanced keep k₂ b₂ a₂) :
    Rebalanced keep (k₁ + k₂) (b₁ ++ b₂) (a₁ ++ a₂) := by
  refine ⟨fun hk => ?_, fun hk => ?_, ?_⟩
  · rw [← Multiset.coe_add, ← Multiset.coe_add, h₁.kept hk, h₂.kept hk, Multiset.replicate_add,
      add_add_add_comm]
  · rw [← Multiset.coe_add, ← Multiset.coe_add, Multiset.replicate_add, Multiset.replicate_add,
      add_add_add_comm, h₁.moved hk, h₂.moved hk, add_add_add_comm]
  · rw [List.filter_append, List.filter_append, h₁.others, h₂.others]

/-- One conversion that keeps the default export. -/
theorem of_kept (hk : keep = true) (h : after.Perm (before ++ [equalsName]))
    (ho : after.filter isOtherName = before.filter isOtherName) :
    Rebalanced keep 1 before after := by
  refine ⟨fun _ => ?_, fun hk' => ?_, ho⟩
  · rw [Multiset.replicate_one, Multiset.coe_eq_coe.2 h]; rfl
  · rw [hk] at hk'; cases hk'

/-- One conversion of a default export among the names `pre` and `post`. -/
theorem of_moved {pre post : List String} (hk : keep = false) :
    Rebalanced keep 1 (pre ++ defaultName :: post) (pre ++ post ++ [equalsName]) := by
  refine ⟨fun hk' => ?_, fun _ => ?_, ?_⟩
  · rw [hk] at hk'; cases hk'
  · rw [Multiset.replicate_one, Multiset.replicate_one, ← Multiset.coe_singleton,
      ← Multiset.coe_singleton, Multiset.coe_add, Multiset.coe_add, Multiset.coe_eq_coe]
    grind
  · simp [List.filter_append, isOtherName]

/-- One conversion of an item that exports a default and nothing else. -/
theorem of_default (hm : keep = false → after = [equalsName])
    (hk : keep = true → after.Perm [defaultName, equalsName]) :
    Rebalanced keep 1 [defaultName] after := by
  cases keep with
  | false =>
    rw [hm rfl]
    exact @of_moved _ [] [] rfl
  | true =>
    have ho : after.filter isOtherName = [] := by
      rw [List.filter_eq_nil_iff]
      intro n hn
      rcases List.mem_pair.1 ((hk rfl).mem_iff.1 hn) with rfl | rfl <;> decide
    exact of_kept rfl (hk rfl) (ho.trans (by decide))

/-- The count of a name when the default exports are not kept. -/
theorem count (h : Rebalanced false k before after) (x : String) :
    after.count x + (if x = defaultName then k else 0) =
      before.count x + (if x = equalsName then k else 0) := by
  have hc := congrArg (Multiset.count x) (h.moved rfl)
  simpa only [Multiset.count_add, Multiset.coe_count, Multiset.count_replicate, eq_comm] using hc

end Rebalanced

/-! ## One item -/

theorem ExportList.remains_exportedNames (mode : Mode) (l : ExportList) (others : List Specifier) :
    (l.remains mode others).flatMap Item.exportedNames =
      (if mode.options.keepDefault then l.specifiers else others).map Specifier.exportedName := by
  unfold remains
  by_cases hk : mode.options.keepDefault
  · simp [hk, Item.exportedNames]
  · rcases others with _ | ⟨s, others⟩ <;> simp [hk, Item.exportedNames]

theorem Specifier.exportedName_of_defaultRename {d : NamedSpecifier}
    (h : Specifier.defaultRename? (.named d) = some d) :
    Specifier.exportedName (.named d) = defaultName := by
  obtain ⟨-, i, hi, hn⟩ := Specifier.defaultRename?_eq_some h
  simp only [exportedName, hi, Option.getD_some, ExportName.reported, hn]

/-- **A conversion exchanges one `default` for one `export=`**, or adds the
    `export=` to it. -/
theorem Converted.rebalanced {mode : Mode} {g g' : FreshNames} {item : Item} {e : Event}
    {items : List Item} (h : Converted mode g item e items g') :
    Rebalanced mode.options.keepDefault 1 item.exportedNames
      (items.flatMap Item.exportedNames) := by
  cases h with
  | @list l d others i _ hs hd hg =>
    obtain ⟨pre, post, hl, rfl, -, hr⟩ := Specifier.splitDefault_eq_some hd
    rw [List.flatMap_append, l.remains_exportedNames mode]
    rcases hk : mode.options.keepDefault with _ | _
    · have hnames : (Item.exportList l).exportedNames =
          pre.map Specifier.exportedName ++ defaultName :: post.map Specifier.exportedName := by
        simp [Item.exportedNames, hl, Specifier.exportedName_of_defaultRename hr]
      rw [hnames, if_neg (by simp), List.map_append]
      exact .of_moved rfl
    · exact .of_kept rfl (List.Perm.refl _) (by simp [Item.exportedNames, isOtherName])
  | definition hg =>
    refine .of_default (fun hk => ?_) fun hk => ?_
    · simp [Mode.kept, hk, Item.exportedNames]
    · simpa [Mode.kept, hk, Item.exportedNames] using List.Perm.swap _ _ _
  | ident he =>
    refine .of_default (fun hk => ?_) fun hk => ?_ <;> simp [Mode.kept, hk, Item.exportedNames]
  | value he hk => exact .of_default (fun _ => rfl) (by simp [hk])
  | repeated he hk ha => exact .of_default (by simp [hk]) fun _ => List.Perm.refl _
  | hoisted he hk ha hg => exact .of_default (by simp [hk]) fun _ => List.Perm.refl _

/-- An item that is converted exports, and so does what replaces it. -/
theorem Converted.isModuleItem {mode : Mode} {g g' : FreshNames} {item : Item} {e : Event}
    {items : List Item} (h : Converted mode g item e items g') :
    item.isModuleItem = true ∧ items.any Item.isModuleItem = true := by
  cases h <;> simp [Item.isModuleItem]

/-! ## Bodies -/

theorem Step.Of.rebalanced {mode : Mode} {g : FreshNames} {item : Item} {s : Step}
    (h : s.Of mode g item) :
    Rebalanced mode.options.keepDefault (if s.conversion.isReplacement then 1 else 0)
      item.exportedNames (s.conversion.items.flatMap Item.exportedNames) := by
  rcases h with rfl | ⟨e, items, g', rfl, hc⟩
  · simpa [Step.keep, Conversion.isReplacement, Conversion.items] using Rebalanced.refl _
  · exact hc.rebalanced

theorem Step.Of.any_isModuleItem {mode : Mode} {g : FreshNames} {item : Item} {s : Step}
    (h : s.Of mode g item) : s.conversion.items.any Item.isModuleItem = item.isModuleItem := by
  rcases h with rfl | ⟨e, items, g', rfl, hc⟩
  · simp [Step.keep, Conversion.items]
  · exact hc.isModuleItem.2.trans hc.isModuleItem.1.symm

section
variable {mode : Mode} {g : FreshNames} {items : List Item} {steps : List Step}

theorem Run.rebalanced (h : Run mode g items steps) :
    Rebalanced mode.options.keepDefault (Step.replaced steps) (items.flatMap Item.exportedNames)
      ((Step.output steps).flatMap Item.exportedNames) := by
  induction h with
  | nil => exact .refl []
  | cons hs _ ih =>
    rw [Step.replaced_cons, Step.output_cons, List.flatMap_append, List.flatMap_cons]
    exact hs.rebalanced.append ih

theorem Run.any_isModuleItem (h : Run mode g items steps) :
    (Step.output steps).any Item.isModuleItem = items.any Item.isModuleItem := by
  induction h with
  | nil => rfl
  | cons hs _ ih => rw [Step.output_cons, List.any_append, hs.any_isModuleItem, ih, List.any_cons]

end

/-- A script exports nothing. -/
theorem Module.exportedNames_getD (m : Module) :
    m.exportedNames.getD [] = m.body.flatMap Item.exportedNames := by
  unfold exportedNames
  split_ifs with h
  · rfl
  · symm
    rw [Option.getD_none, List.flatMap_eq_nil_iff]
    intro item hi
    have hm : item.isModuleItem = false := by
      simpa using fun hm => h (List.any_eq_true.2 ⟨item, hi, hm⟩)
    cases item <;> first | rfl | cases hm

theorem SourceFile.exportedNames_eq_none_iff (f : SourceFile) (options : Options) :
    (f.convert options).result.module.exportedNames = none ↔ f.module.exportedNames = none := by
  simp only [Module.exportedNames, SourceFile.convert_body, (f.steps_run options).any_isModuleItem]
  split_ifs <;> simp

theorem SourceFile.rebalanced (f : SourceFile) (options : Options) :
    Rebalanced options.keepDefault (Step.replaced (f.steps options))
      (f.module.exportedNames.getD [])
      ((f.convert options).result.module.exportedNames.getD []) := by
  rw [Module.exportedNames_getD, Module.exportedNames_getD, SourceFile.convert_body]
  exact (f.steps_run options).rebalanced

/-- **No export is lost or invented.**  The conversion of a file leaves a module
    a module and a script a script, and moves just as many names from `default`
    to `export=`, or adds as many of them, as it replaces items. -/
theorem SourceFile.convert_exportedNames (f : SourceFile) (options : Options) :
    ((f.convert options).result.module.exportedNames = none ↔ f.module.exportedNames = none) ∧
    Rebalanced options.keepDefault (Step.replaced (f.steps options))
      (f.module.exportedNames.getD [])
      ((f.convert options).result.module.exportedNames.getD []) :=
  ⟨f.exportedNames_eq_none_iff options, f.rebalanced options⟩

end SoleExport
