/-
  The forms of a default export.

  Whether an item has a default export is asked twice: a rule asks whether it
  knows the form, and the exported names ask whether `default` is among them.

  * `Item.isConvertible`: the forms that the rules convert, whatever the options
    and the fresh names (`Item.convert_isReplacement`);
  * `Item.LeavesDefault`: the forms of a default export that no rule converts;
  * `Item.exports_default_iff`: an item exports a default iff it has one of these
    forms, so that no rule applies where no default is reported
    (`Item.convert_agrees_with_exportedNames`);
  * `SourceFile.convert_eq_self_iff`: a file stays as it is iff nothing in it is
    convertible;
  * `Compilation.apply_syntactic`: a root file is refused or converted.
-/
import SoleExport.Proofs.Outcome

namespace SoleExport

/-! ## Entries of export lists -/

/-- Whether an entry is `x as default`, with `default` as an identifier. -/
def Specifier.isDefaultRename : Specifier → Bool
  | .named ⟨_, _, some (.ident i), _⟩ => i.name == defaultName
  | _ => false

/-- Whether an entry exports `default` and renames nothing: `default` itself,
    `* as default`, or the default of another module under that name. -/
def Specifier.isPlainDefault : Specifier → Bool
  | .named ⟨_, .ident i, none, _⟩ | .wildcard _ (.ident i) | .default i => i.name == defaultName
  | _ => false

/-- Whether a list has an entry `x as default`. -/
def ExportList.hasDefaultRename (l : ExportList) : Bool :=
  l.specifiers.any Specifier.isDefaultRename

theorem Specifier.defaultRename?_isSome (s : Specifier) :
    s.defaultRename?.isSome = s.isDefaultRename := by
  rcases s with ⟨span, orig, _ | i | t, isTypeOnly⟩ | _ | _
  case named.some.ident =>
    by_cases hi : i.name = defaultName <;> simp [defaultRename?, isDefaultRename, hi]
  all_goals rfl

theorem Specifier.splitDefault_isSome (ss : List Specifier) :
    (splitDefault ss).isSome = ss.any isDefaultRename := by
  induction ss with
  | nil => rfl
  | cons s ss ih =>
    rw [List.any_cons, ← ih, ← s.defaultRename?_isSome, splitDefault]
    cases s.defaultRename? <;> simp

/-- A name that is reported as `default` is the identifier. -/
theorem ExportName.reported_eq_default_iff {n : ExportName} :
    n.reported = defaultName ↔ ∃ i, n = .ident i ∧ i.name = defaultName := by
  cases n with
  | ident i => simp [reported]
  | literal t => simp [reported, literalName, defaultName]

theorem Specifier.exportedName_eq_default_iff (s : Specifier) :
    s.exportedName = defaultName ↔ s.isDefaultRename = true ∨ s.isPlainDefault = true := by
  rcases s with ⟨span, i | t, _ | j | u, isTypeOnly⟩ | ⟨span, i | t⟩ | i <;>
    simp [exportedName, isDefaultRename, isPlainDefault, ExportName.reported_eq_default_iff]

/-! ## Forms that are converted -/

/-- Whether an item has a default export of a form that a rule converts. -/
def Item.isConvertible : Item → Bool
  | .exportList l => l.source.isNone && l.hasDefaultRename
  | .defaultDefinition _ _ _ | .defaultExpr _ _ => true
  | _ => false

theorem ExportList.convert_isReplacement (mode : Mode) (g : FreshNames) (l : ExportList) :
    (l.convert mode g).conversion.isReplacement = (l.source.isNone && l.hasDefaultRename) := by
  unfold ExportList.convert
  rcases l.source with _ | t
  · rw [hasDefaultRename, ← Specifier.splitDefault_isSome]
    rcases Specifier.splitDefault l.specifiers with _ | ⟨d, others⟩ <;> rfl
  · rfl

theorem Expr.convert_isReplacement (mode : Mode) (g : FreshNames) (s : Span) (e : Expr) :
    (e.convert mode g s).conversion.isReplacement = true := by
  unfold Expr.convert
  rcases e.ident? with _ | i
  · dsimp only
    split_ifs <;> rfl
  · rfl

/-- **The rules convert an item for its form alone.** -/
theorem Item.convert_isReplacement (mode : Mode) (g : FreshNames) (item : Item) :
    (item.convert mode g).conversion.isReplacement = item.isConvertible := by
  cases item with
  | exportList l => exact l.convert_isReplacement mode g
  | defaultExpr s e => exact e.convert_isReplacement mode g s
  | _ => rfl

theorem Converted.isConvertible {mode : Mode} {g g' : FreshNames} {item : Item} {e : Event}
    {items : List Item} (h : Converted mode g item e items g') : item.isConvertible = true := by
  rw [← item.convert_isReplacement mode g, h.convert_eq]
  rfl

/-- An item of another form is kept, and one of these is converted. -/
theorem Item.convert_cases_of_form (mode : Mode) (g : FreshNames) (item : Item) :
    (item.isConvertible = false ∧ item.convert mode g = .keep item g) ∨
    (item.isConvertible = true ∧ ∃ e items g', item.convert mode g = ⟨.replace items, [e], g'⟩ ∧
      Converted mode g item e items g') := by
  rw [← item.convert_isReplacement mode g]
  rcases item.convert_cases mode g with h | ⟨e, items, g', h, hconv⟩
  · exact Or.inl ⟨by rw [h]; rfl, h⟩
  · exact Or.inr ⟨by rw [h]; rfl, e, items, g', h, hconv⟩

theorem Item.convert_eq_keep_iff {mode : Mode} {g : FreshNames} {item : Item} :
    (item.convert mode g).conversion = .keep item ↔ item.isConvertible = false := by
  rcases item.convert_cases_of_form mode g with ⟨hc, h⟩ | ⟨hc, e, items, g', h, -⟩ <;>
    simp [h, hc, Step.keep]

/-! ## Forms that are left -/

/-- A default export of a form that no rule converts. -/
inductive Item.LeavesDefault : Item → Prop
  /-- `export { x as default } from "m"` -/
  | reexport {l s} : l.source.isSome = true → s ∈ l.specifiers → s.exportedName = defaultName →
      LeavesDefault (.exportList l)
  /-- `export { default }`, without any `x as default` -/
  | plain {l s} : l.source = none → l.hasDefaultRename = false → s ∈ l.specifiers →
      s.isPlainDefault = true → LeavesDefault (.exportList l)
  /-- `export default interface I {}` -/
  | interface {s t} : LeavesDefault (.defaultInterface s t)
  /-- a declaration that binds the name `default` -/
  | declaration {s d} : defaultName ∈ d.names → LeavesDefault (.exportDeclaration s d)
  /-- `export import default = …` -/
  | importEquals {i fs} : i.name = defaultName → LeavesDefault (.importEquals i true fs)

theorem Item.LeavesDefault.isConvertible {item : Item} (h : item.LeavesDefault) :
    item.isConvertible = false := by
  cases h with
  | reexport hs => simp [Item.isConvertible, Option.isNone_eq_false_iff.2 hs]
  | plain hs hr => simp [Item.isConvertible, hr]
  | interface | declaration | importEquals => rfl

theorem Item.LeavesDefault.exports_default {item : Item} (h : item.LeavesDefault) :
    defaultName ∈ item.exportedNames := by
  cases h with
  | @reexport l s _ hm hn => exact List.mem_map.2 ⟨s, hm, hn⟩
  | @plain l s _ _ hm hp =>
    exact List.mem_map.2 ⟨s, hm, s.exportedName_eq_default_iff.2 (Or.inr hp)⟩
  | interface => exact List.mem_singleton_self _
  | declaration hd => exact hd
  | importEquals hi => simp [Item.exportedNames, hi]

/-- A list exports a default by renaming, or leaves one. -/
theorem ExportList.exports_default_cases {l : ExportList} {s : Specifier}
    (hs : s ∈ l.specifiers) (hn : s.exportedName = defaultName) :
    (Item.exportList l).isConvertible = true ∨ (Item.exportList l).LeavesDefault := by
  by_cases hsrc : l.source.isSome
  · exact Or.inr (.reexport hsrc hs hn)
  have hnone : l.source = none := by simpa using hsrc
  rcases hr : l.hasDefaultRename with _ | _
  · -- without a renaming in the list the entry itself is called `default`
    refine Or.inr (.plain hnone hr hs ?_)
    rcases s.exportedName_eq_default_iff.1 hn with h | h
    · rw [hasDefaultRename, List.any_eq_false] at hr
      exact absurd h (hr s hs)
    · exact h
  · exact Or.inl (by simp [Item.isConvertible, hnone, hr])

/-- **An item exports a default iff its form is one of the known ones**: those
    that the rules convert and those that they leave. -/
theorem Item.exports_default_iff (item : Item) :
    defaultName ∈ item.exportedNames ↔ item.isConvertible = true ∨ item.LeavesDefault := by
  constructor
  · intro h
    cases item with
    | exportList l =>
      obtain ⟨s, hs, hn⟩ := List.mem_map.1 h
      exact ExportList.exports_default_cases hs hn
    | defaultDefinition | defaultExpr => exact Or.inl rfl
    | defaultInterface => exact Or.inr .interface
    | exportDeclaration s d => exact Or.inr (.declaration h)
    | importEquals i isExport fs =>
      cases isExport with
      | false => cases h
      | true => exact Or.inr (.importEquals (List.mem_singleton.1 h).symm)
    | exportAll | exportEquals => exact absurd (List.mem_singleton.1 h) (by decide)
    | importFrom | exportNamespace | declaration | statement => cases h
  · rintro (h | h)
    · cases item with
      | exportList l =>
        simp only [isConvertible, ExportList.hasDefaultRename, Bool.and_eq_true,
          List.any_eq_true] at h
        obtain ⟨-, s, hs, hr⟩ := h
        exact List.mem_map.2 ⟨s, hs, s.exportedName_eq_default_iff.2 (Or.inl hr)⟩
      | defaultDefinition | defaultExpr => exact List.mem_singleton_self _
      | _ => cases h
    · exact h.exports_default

/-! ## Files -/

/-- As many items are replaced as are convertible. -/
theorem Item.replaced_convertAll (mode : Mode) :
    ∀ (body : List Item) (g : FreshNames),
      Step.replaced (convertAll mode g body) = body.countP isConvertible
  | [], _ => rfl
  | item :: body, g => by
    rw [convertAll, Step.replaced_cons, replaced_convertAll mode body, List.countP_cons,
      item.convert_isReplacement, Nat.add_comm]

theorem SourceFile.replaced_eq_zero_iff (f : SourceFile) (options : Options) :
    Step.replaced (f.steps options) = 0 ↔ ∀ item ∈ f.module.body, item.isConvertible = false := by
  rw [SourceFile.steps, Item.replaced_convertAll, List.countP_eq_zero]
  simp only [Bool.not_eq_true]

/-- A conversion adds one `export=`, whether or not the default is kept. -/
theorem Rebalanced.count_equals {keep : Bool} {k : Nat} {before after : List String}
    (h : Rebalanced keep k before after) :
    after.count equalsName = before.count equalsName + k := by
  have hne : defaultName ≠ equalsName := by decide
  cases keep with
  | false => simpa [hne.symm] using h.count equalsName
  | true =>
    have hc := congrArg (Multiset.count equalsName) (h.kept rfl)
    simpa using hc

/-- **A file stays as it is iff nothing in it is convertible.** -/
theorem SourceFile.convert_eq_self_iff (f : SourceFile) (options : Options) :
    (f.convert options).result = f ↔ ∀ item ∈ f.module.body, item.isConvertible = false := by
  rw [← f.replaced_eq_zero_iff options]
  refine ⟨fun h => ?_, SourceFile.convert_eq_self⟩
  -- each replaced item would show as one more `export=`
  have hc := (f.rebalanced options).count_equals
  rw [h] at hc
  omega

/-- A file that reports no default has nothing to convert. -/
theorem SourceFile.not_convertible_of_no_default {f : SourceFile}
    (h : ∀ names, f.module.exportedNames = some names → defaultName ∉ names) :
    ∀ item ∈ f.module.body, item.isConvertible = false := by
  intro item hi
  rw [← Bool.not_eq_true]
  intro hc
  have hm : f.module.body.any Item.isModuleItem = true := by
    refine List.any_eq_true.2 ⟨item, hi, ?_⟩
    cases item <;> first | rfl | cases hc
  refine h _ (if_pos hm) (List.mem_flatMap.2 ⟨item, hi, ?_⟩)
  exact item.exports_default_iff.2 (Or.inl hc)

/-- **Rules and exported names agree on what a default export is.**  An item that
    is replaced exports a default; an item that is kept exports one just if it
    has a form that the rules leave.  Where no default is reported, the
    conversion changes nothing. -/
theorem Item.convert_agrees_with_exportedNames :
    (∀ (mode : Mode) (g : FreshNames) (item : Item),
      (∀ items, (item.convert mode g).conversion = .replace items →
        defaultName ∈ item.exportedNames) ∧
      ((item.convert mode g).conversion = .keep item ∧ defaultName ∈ item.exportedNames ↔
        item.LeavesDefault)) ∧
    ∀ (f : SourceFile) (options : Options),
      (∀ names, f.module.exportedNames = some names → defaultName ∉ names) →
        (f.convert options).result = f := by
  refine ⟨fun mode g item => ⟨fun items h => ?_, ?_⟩, fun f options h => ?_⟩
  · have hc : item.isConvertible = true := by
      rw [← item.convert_isReplacement mode g, h]; rfl
    exact item.exports_default_iff.2 (Or.inl hc)
  · rw [convert_eq_keep_iff, exports_default_iff]
    constructor
    · rintro ⟨hk, hc | hl⟩
      · rw [hk] at hc; cases hc
      · exact hl
    · exact fun hl => ⟨hl.isConvertible, Or.inr hl⟩
  · exact (f.convert_eq_self_iff options).2 (SourceFile.not_convertible_of_no_default h)

/-- `export { default } from "m"` -/
def ExportList.defaultFromElsewhere : ExportList where
  span := ⟨1, 29⟩
  specifiers := [.named ⟨⟨10, 17⟩, .ident ⟨⟨10, 17⟩, 0, "default", false⟩, none, false⟩]
  source := some (.node "StringLiteral" [
    ("span", .span ⟨25, 28⟩), ("value", .str "m"), ("raw", .str "\"m\"")])
  typeOnly := false
  attributes := .null

/-- The default of another module is exported and kept, a class is exported and
    replaced, and a script stays as it is. -/
theorem Item.convert_agrees_with_exportedNames_elsewhere :
    let mode : Mode := ⟨⟨false, false⟩, false⟩
    let g : FreshNames := ⟨[], 0⟩
    let list := Item.exportList .defaultFromElsewhere
    let script : SourceFile := ⟨"a.ts", ⟨⟨1, 1⟩, none, []⟩⟩
    ((list.convert mode g).conversion = .keep list ∧ defaultName ∈ list.exportedNames ∧
      list.LeavesDefault) ∧
    (∀ item ∈ SourceFile.anonymousClass.module.body,
      (∃ items, (item.convert mode g).conversion = .replace items) ∧
        defaultName ∈ item.exportedNames) ∧
    script.module.exportedNames = none ∧ (script.convert ⟨true, true⟩).result = script := by
  intro mode g list script
  obtain ⟨hitems, hfiles⟩ := Item.convert_agrees_with_exportedNames
  have hkeep : (list.convert mode g).conversion = .keep list := rfl
  have hdefault : defaultName ∈ list.exportedNames := List.mem_singleton_self _
  refine ⟨⟨hkeep, hdefault, (hitems mode g list).2.1 ⟨hkeep, hdefault⟩⟩, fun item hi => ?_,
    rfl, hfiles script ⟨true, true⟩ fun names h => by cases h⟩
  rw [List.mem_singleton.1 hi]
  exact ⟨⟨_, rfl⟩, (hitems mode g _).1 _ rfl⟩

/-! ## Root files -/

/-- A file reports a default export next to other names. -/
def SourceFile.MixesDefault (f : SourceFile) : Prop :=
  ∃ names, f.module.exportedNames = some names ∧ defaultName ∈ names ∧
    ∃ n ∈ names, n ≠ defaultName

/-- **A root file is refused or converted.**  It is refused for a default export
    next to other names, unless these are allowed. -/
theorem Compilation.apply_syntactic {c : Compilation} (hc : c.oracle = Oracle.syntactic)
    {f : SourceFile} (hr : c.roots.contains f.name = true) (options : Options) :
    (f.MixesDefault ∧ options.allowNamed = false ∧
      (c.apply options f).result = .error (.namedExports f.name)) ∨
    (¬ (f.MixesDefault ∧ options.allowNamed = false) ∧
      (c.apply options f).result = .ok (f.convert options).result) := by
  have hnames : c.oracle f = f.module.exportedNames := by rw [hc]; rfl
  have ho := c.apply_cases options f
  generalize (c.apply options f).result = r at ho ⊢
  cases ho with
  | same h =>
    have hno := h hr
    rw [hnames] at hno
    have hself := (f.convert_eq_self_iff options).2
      (SourceFile.not_convertible_of_no_default hno)
    refine Or.inr ⟨?_, by rw [hself]⟩
    rintro ⟨⟨names, hn, hd, -⟩, -⟩
    exact hno names hn hd
  | @refused names _ hn hd hother ha =>
    exact Or.inl ⟨⟨names, hnames ▸ hn, hd, hother⟩, ha, rfl⟩
  | @converted names _ hn hd hall =>
    refine Or.inr ⟨?_, rfl⟩
    rintro ⟨⟨names', hn', -, n, hmem, hne⟩, ha⟩
    obtain rfl : names = names' := Option.some.inj (hn.symm.trans (hnames.trans hn'))
    exact hne (hall ha n hmem)

end SoleExport
