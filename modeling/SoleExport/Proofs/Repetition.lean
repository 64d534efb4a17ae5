/-
  Transforming a result once more.

  A conversion that does not keep the default leaves `export=`, which counts as a
  named export, and of all convertible forms it leaves only lists with a further
  entry `x as default` (`SourceFile.list_of_convertible`).

  * `Compilation.apply_progress`: where named exports are allowed, a
    transformation changes nothing or uses up a default export;
  * `Compilation.exists_fixed_point`: so that it comes to rest after as many
    passes as there are default exports;
  * `Compilation.apply_again`: what a second transformation of a changed file
    comes to.
-/
import SoleExport.Proofs.DefaultForms

namespace SoleExport

/-- Transform a file `n` times over, up to the first error. -/
def Compilation.applyTimes (c : Compilation) (options : Options) :
    Nat → SourceFile → Except TransformError SourceFile
  | 0, f => .ok f
  | n + 1, f => (c.apply options f).result.bind (c.applyTimes options n)

/-- How often a file reports a default export. -/
def SourceFile.defaults (f : SourceFile) : Nat :=
  (f.module.exportedNames.getD []).count defaultName

theorem SourceFile.defaults_eq_zero_iff {f : SourceFile} :
    f.defaults = 0 ↔ ∀ names, f.module.exportedNames = some names → defaultName ∉ names := by
  rw [defaults, List.count_eq_zero]
  rcases f.module.exportedNames with _ | names <;> simp

/-! ## What a conversion leaves -/

/-- Of what a conversion produces only lists are convertible. -/
theorem Converted.list_of_convertible {mode : Mode} {g g' : FreshNames} {item : Item} {e : Event}
    {items : List Item} (h : Converted mode g item e items g')
    (hk : mode.options.keepDefault = false) {it : Item} (hit : it ∈ items)
    (hc : it.isConvertible = true) : ∃ l, it = .exportList l := by
  cases h with
  | list =>
    rcases List.mem_append.1 hit with hit | hit
    · exact ⟨_, ExportList.mem_remains hit⟩
    · rw [List.mem_singleton.1 hit] at hc; cases hc
  | definition =>
    simp only [List.mem_cons, Mode.mem_kept, hk, Bool.false_eq_true, false_and, or_false] at hit
    rcases hit with rfl | rfl <;> cases hc
  | ident =>
    simp only [List.mem_append, Mode.mem_kept, hk, Bool.false_eq_true, false_and, false_or] at hit
    rw [List.mem_singleton.1 hit] at hc; cases hc
  | value => rw [List.mem_singleton.1 hit] at hc; cases hc
  | repeated _ hk' | hoisted _ hk' => rw [hk] at hk'; cases hk'

theorem Item.list_of_convertible {mode : Mode} (hk : mode.options.keepDefault = false)
    {g : FreshNames} {item it : Item} (hit : it ∈ (item.convert mode g).conversion.items)
    (hc : it.isConvertible = true) : ∃ l, it = .exportList l := by
  rcases item.convert_cases_of_form mode g with ⟨hkeep, h⟩ | ⟨-, e, items, g', h, hconv⟩
  · -- an item that is kept is not convertible
    rw [h] at hit
    rw [List.mem_singleton.1 hit, hkeep] at hc
    cases hc
  · rw [h] at hit
    exact hconv.list_of_convertible hk hit hc

/-- Each item of a converted body comes from a step. -/
theorem Item.mem_output_convertAll {mode : Mode} {it : Item} :
    ∀ {body : List Item} {g : FreshNames}, it ∈ Step.output (convertAll mode g body) →
      ∃ (item : Item) (g' : FreshNames), it ∈ (item.convert mode g').conversion.items
  | [], _, h => by cases h
  | item :: body, g, h => by
    rw [convertAll, Step.output_cons] at h
    rcases List.mem_append.1 h with h | h
    · exact ⟨item, g, h⟩
    · exact mem_output_convertAll h

/-- **Only lists are left to convert.** -/
theorem SourceFile.list_of_convertible {f : SourceFile} {options : Options}
    (hk : options.keepDefault = false) {it : Item}
    (hit : it ∈ (f.convert options).result.module.body) (hc : it.isConvertible = true) :
    ∃ l, it = .exportList l := by
  rw [SourceFile.convert_body, SourceFile.steps] at hit
  obtain ⟨item, g, hit⟩ := Item.mem_output_convertAll hit
  exact Item.list_of_convertible hk hit hc

/-- A list without a source holds a further entry `x as default`. -/
def SourceFile.HasRenameLeft (f : SourceFile) : Prop :=
  ∃ l, Item.exportList l ∈ f.module.body ∧ l.source = none ∧ l.hasDefaultRename = true

theorem SourceFile.not_hasRenameLeft_of_defaults {f : SourceFile} (hz : f.defaults = 0) :
    ¬ f.HasRenameLeft := by
  rintro ⟨l, hl, hs, hr⟩
  have hc := not_convertible_of_no_default (defaults_eq_zero_iff.1 hz) _ hl
  simp [Item.isConvertible, hs, hr] at hc

theorem SourceFile.convert_again_eq_self_iff {f : SourceFile} {options : Options}
    (hk : options.keepDefault = false) :
    ((f.convert options).result.convert options).result = (f.convert options).result ↔
      ¬ (f.convert options).result.HasRenameLeft := by
  rw [SourceFile.convert_eq_self_iff]
  constructor
  · rintro h ⟨l, hl, hs, hr⟩
    simpa [Item.isConvertible, hs, hr] using h _ hl
  · intro h it hit
    by_contra hc
    rw [Bool.not_eq_false] at hc
    obtain ⟨l, rfl⟩ := SourceFile.list_of_convertible hk hit hc
    simp only [Item.isConvertible, Bool.and_eq_true, Option.isNone_iff_eq_none] at hc
    exact h ⟨l, hit, hc.1, hc.2⟩

/-! ## Fewer defaults -/

/-- Each item that is replaced uses up a default export. -/
theorem SourceFile.defaults_convert (f : SourceFile) {options : Options}
    (hk : options.keepDefault = false) :
    (f.convert options).result.defaults + Step.replaced (f.steps options) = f.defaults := by
  have h := f.rebalanced options
  rw [hk] at h
  have hne : defaultName ≠ equalsName := by decide
  unfold defaults
  simpa [hne] using h.count defaultName

theorem SourceFile.defaults_convert_lt {f : SourceFile} {options : Options}
    (hk : options.keepDefault = false) (hne : (f.convert options).result ≠ f) :
    (f.convert options).result.defaults < f.defaults := by
  have hpos : Step.replaced (f.steps options) ≠ 0 := fun h => hne (SourceFile.convert_eq_self h)
  have hcount := f.defaults_convert hk
  omega

/-- A file that was changed exports by `export=`. -/
theorem SourceFile.equals_of_convert_ne {f : SourceFile} {options : Options}
    (hne : (f.convert options).result ≠ f) :
    equalsName ∈ (f.convert options).result.module.exportedNames.getD [] := by
  have hpos : Step.replaced (f.steps options) ≠ 0 := fun h => hne (SourceFile.convert_eq_self h)
  have hcount := (f.rebalanced options).count_equals
  rw [← List.count_pos_iff]
  omega

/-- Next to `export=` a default export is not alone. -/
theorem SourceFile.mixesDefault_iff {f : SourceFile}
    (he : equalsName ∈ f.module.exportedNames.getD []) : f.MixesDefault ↔ f.defaults ≠ 0 := by
  rcases hn : f.module.exportedNames with _ | names
  · rw [hn] at he; cases he
  · rw [hn, Option.getD_some] at he
    have hne : equalsName ≠ defaultName := by decide
    constructor
    · rintro ⟨names', hn', hd, -⟩ hz
      exact defaults_eq_zero_iff.1 hz names' hn' hd
    · intro hz
      rw [defaults, hn, Option.getD_some, ne_eq, List.count_eq_zero, not_not] at hz
      exact ⟨names, hn, hz, equalsName, he, hne⟩

/-! ## Passes -/

section
variable {c : Compilation} {options : Options} {f : SourceFile}

/-- A file that is changed is a root, and was converted. -/
theorem Compilation.eq_convert_of_ne (hc : c.oracle = Oracle.syntactic) {g : SourceFile}
    (h : (c.apply options f).result = .ok g) (hne : g ≠ f) :
    c.roots.contains f.name = true ∧ g = (f.convert options).result := by
  have hr : c.roots.contains f.name = true := by
    by_contra hr
    have hsame : (c.apply options f).result = .ok f := by
      unfold apply; rw [if_pos (by simpa using hr)]
    exact hne (Except.ok.inj (h.symm.trans hsame))
  refine ⟨hr, ?_⟩
  rcases c.apply_syntactic hc hr options with ⟨-, -, he⟩ | ⟨-, hok⟩
  · rw [he] at h; cases h
  · exact Except.ok.inj (h.symm.trans hok)

/-- **A pass that changes a file uses up a default export.** -/
theorem Compilation.apply_progress (hc : c.oracle = Oracle.syntactic)
    (hk : options.keepDefault = false) (ha : options.allowNamed = true) (f : SourceFile) :
    (c.apply options f).result = .ok f ∨
      ∃ g, (c.apply options f).result = .ok g ∧ g ≠ f ∧ g.defaults < f.defaults := by
  have hok : ∃ g, (c.apply options f).result = .ok g := by
    have ho := c.apply_cases options f
    generalize (c.apply options f).result = r at ho ⊢
    cases ho with
    | same | converted => exact ⟨_, rfl⟩
    | refused _ _ _ _ ha' => rw [ha] at ha'; cases ha'
  obtain ⟨g, hg⟩ := hok
  by_cases hne : g = f
  · exact Or.inl (hne ▸ hg)
  · obtain ⟨-, rfl⟩ := eq_convert_of_ne hc hg hne
    exact Or.inr ⟨_, hg, hne, SourceFile.defaults_convert_lt hk hne⟩

/-- **Passes come to rest** after at most as many as there are default exports. -/
theorem Compilation.exists_fixed_point (hc : c.oracle = Oracle.syntactic)
    (hk : options.keepDefault = false) (ha : options.allowNamed = true) (f : SourceFile) :
    ∃ n ≤ f.defaults, ∃ last, c.applyTimes options n f = .ok last ∧
      (c.apply options last).result = .ok last := by
  induction hd : f.defaults using Nat.strong_induction_on generalizing f with
  | _ d ih =>
    rcases c.apply_progress hc hk ha f with hfix | ⟨g, hg, -, hlt⟩
    · exact ⟨0, Nat.zero_le _, f, rfl, hfix⟩
    · obtain ⟨n, hn, last, hlast, hfix⟩ := ih g.defaults (hd ▸ hlt) g rfl
      refine ⟨n + 1, by omega, last, ?_, hfix⟩
      rw [applyTimes, hg]
      exact hlast

/-- Next to `export=` a root is refused for any default, unless that is allowed. -/
theorem Compilation.apply_of_equals (hc : c.oracle = Oracle.syntactic)
    (hr : c.roots.contains f.name = true) (he : equalsName ∈ f.module.exportedNames.getD [])
    (options : Options) :
    (f.defaults ≠ 0 ∧ options.allowNamed = false ∧
      (c.apply options f).result = .error (.namedExports f.name)) ∨
    (¬ (f.defaults ≠ 0 ∧ options.allowNamed = false) ∧
      (c.apply options f).result = .ok (f.convert options).result) := by
  rw [← SourceFile.mixesDefault_iff he]
  exact c.apply_syntactic hc hr options

/-- **A second transformation.**  It leaves a changed file as it is iff no default
    is left, or, where named exports are allowed, none in a list.  Else the file
    is refused for its `export=`, or loses further defaults until it comes to
    rest. -/
theorem Compilation.apply_again {g : SourceFile} (hc : c.oracle = Oracle.syntactic)
    (hk : options.keepDefault = false) (h : (c.apply options f).result = .ok g) (hne : g ≠ f) :
    ((c.apply options g).result = .ok g ↔
      g.defaults = 0 ∨ (options.allowNamed = true ∧ ¬ g.HasRenameLeft)) ∧
    ((c.apply options g).result ≠ .ok g →
      (options.allowNamed = false → (c.apply options g).result = .error (.namedExports f.name)) ∧
      (options.allowNamed = true →
        ∃ k, (c.apply options g).result = .ok k ∧ k ≠ g ∧ k.defaults < g.defaults)) ∧
    (options.allowNamed = true → ∃ n ≤ f.defaults, ∃ last,
      c.applyTimes options n f = .ok last ∧ (c.apply options last).result = .ok last) := by
  obtain ⟨hr, rfl⟩ := eq_convert_of_ne hc h hne
  have hagain := SourceFile.convert_again_eq_self_iff (f := f) hk
  have hcases := apply_of_equals (f := (f.convert options).result) hc hr
    (SourceFile.equals_of_convert_ne hne) options
  refine ⟨?_, fun hnot => ⟨fun ha => ?_, fun ha => ?_⟩,
    fun ha => exists_fixed_point hc hk ha f⟩
  · rcases hcases with ⟨hz, ha, he⟩ | ⟨hm, hok⟩
    · simp [he, ha, hz]
    · rw [hok, Except.ok.injEq, hagain]
      constructor
      · intro hleft
        by_cases hz : (f.convert options).result.defaults = 0
        · exact Or.inl hz
        · refine Or.inr ⟨?_, hleft⟩
          rw [← Bool.not_eq_false]
          exact fun ha => hm ⟨hz, ha⟩
      · rintro (hz | ⟨-, hleft⟩)
        exacts [SourceFile.not_hasRenameLeft_of_defaults hz, hleft]
  · rcases hcases with ⟨-, -, he⟩ | ⟨hm, hok⟩
    · exact he
    · -- it would not be refused only if no default were left
      have hz : (f.convert options).result.defaults = 0 := by
        by_contra hz
        exact hm ⟨hz, ha⟩
      have hself := hagain.2 (SourceFile.not_hasRenameLeft_of_defaults hz)
      exact absurd (hok.trans (congrArg Except.ok hself)) hnot
  · rcases c.apply_progress hc hk ha (f.convert options).result with hfix | hprogress
    exacts [absurd hfix hnot, hprogress]

end

/-- `export { a as default, b as default }` -/
def SourceFile.twoRenames : SourceFile where
  name := "a.ts"
  module := ⟨⟨1, 40⟩, none, [
    .exportList ⟨⟨1, 40⟩, [
      .named ⟨⟨10, 22⟩, .ident ⟨⟨10, 11⟩, 0, "a", false⟩,
        some (.ident ⟨⟨15, 22⟩, 0, "default", false⟩), false⟩,
      .named ⟨⟨24, 36⟩, .ident ⟨⟨24, 25⟩, 0, "b", false⟩,
        some (.ident ⟨⟨29, 36⟩, 0, "default", false⟩), false⟩], none, false, .null⟩]⟩

/-- Two entries take two passes, where named exports are allowed. -/
theorem Compilation.apply_again_twoRenames :
    let c : Compilation := ⟨Roots.ofList ["./a.ts"], Oracle.syntactic⟩
    let f := SourceFile.twoRenames
    let g := (f.convert ⟨false, true⟩).result
    (c.apply ⟨false, true⟩ f).result = .ok g ∧ g ≠ f ∧
      (c.apply ⟨false, true⟩ g).result ≠ .ok g ∧
      (∃ k, (c.apply ⟨false, true⟩ g).result = .ok k ∧ k ≠ g ∧ k.defaults < g.defaults) ∧
      ∃ n ≤ f.defaults, ∃ last, c.applyTimes ⟨false, true⟩ n f = .ok last ∧
        (c.apply ⟨false, true⟩ last).result = .ok last := by
  intro c f g
  have hok : (c.apply ⟨false, true⟩ f).result = .ok g := rfl
  have hne : g ≠ f :=
    fun h => absurd (congrArg (fun f : SourceFile => f.module.body.length) h) (by decide)
  obtain ⟨hsame, hother, hrest⟩ := Compilation.apply_again (c := c) rfl rfl hok hne
  have hnot : (c.apply ⟨false, true⟩ g).result ≠ .ok g := by
    intro h
    rcases hsame.1 h with hz | ⟨-, hleft⟩
    · exact absurd hz (by decide)
    · exact hleft ⟨_, List.mem_cons_self .., rfl, rfl⟩
  exact ⟨hok, hne, hnot, (hother hnot).2 rfl, hrest rfl⟩

end SoleExport
