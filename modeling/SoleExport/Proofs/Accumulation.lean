/-
  Keeping the default export, pass after pass.

  A conversion that keeps the default export replaces an item by items of which
  one is convertible again, though its form may have changed: a class becomes a
  declaration beside `export default` of its name.  So no pass is the last one,
  and each adds another `export =`.

  * `Converted.convertible_once`, `Converted.equals_once`: what stands in the
    place of an item has one convertible item and one `export =`;
  * `SourceFile.Grown`: what passes add to a file; `Grown.convert` is one pass,
    `SourceFile.grown_passes` all of them;
  * `Compilation.apply_again_kept`: what a second transformation of a changed
    file, and every further one, comes to.
-/
import SoleExport.Proofs.Repetition

namespace SoleExport

/-! ## One item -/

/-- Whether an item is `export = e`. -/
def Item.isEquals : Item → Bool
  | .exportEquals _ _ => true
  | _ => false

theorem Item.isEquals_of_convertible {item : Item} (h : item.isConvertible = true) :
    item.isEquals = false := by
  cases item <;> first | rfl | cases h

theorem Mode.countP_kept (mode : Mode) (p : Item → Bool) (item : Item) :
    (mode.kept item).countP p = if mode.options.keepDefault && p item then 1 else 0 := by
  unfold kept
  cases mode.options.keepDefault <;> cases hp : p item <;> simp [hp]

theorem ExportList.countP_isEquals_remains (mode : Mode) (l : ExportList)
    (others : List Specifier) : (l.remains mode others).countP Item.isEquals = 0 := by
  refine List.countP_eq_zero.2 fun it hit => ?_
  rw [mem_remains hit]
  simp [Item.isEquals]

/-- **A conversion that keeps the default leaves one convertible item.** -/
theorem Converted.convertible_once {mode : Mode} {g g' : FreshNames} {item : Item} {e : Event}
    {items : List Item} (h : Converted mode g item e items g')
    (hk : mode.options.keepDefault = true) : items.countP Item.isConvertible = 1 := by
  have hc := h.isConvertible
  cases h with
  | list =>
    -- the list stays as it is, with its entry `x as default`
    rw [ExportList.remains, if_pos hk, List.countP_append, List.countP_singleton, if_pos hc]
    rfl
  | definition =>
    rw [Mode.kept, if_pos hk]
    rfl
  | ident =>
    rw [Mode.kept, if_pos hk]
    rfl
  | value _ hk' => rw [hk] at hk'; cases hk'
  | repeated | hoisted => rfl

/-- **A conversion leaves one `export =`.** -/
theorem Converted.equals_once {mode : Mode} {g g' : FreshNames} {item : Item} {e : Event}
    {items : List Item} (h : Converted mode g item e items g') :
    items.countP Item.isEquals = 1 := by
  cases h with
  | list =>
    rw [List.countP_append, ExportList.countP_isEquals_remains]
    rfl
  | definition =>
    rw [List.countP_cons, List.countP_cons, Mode.countP_kept]
    simp [Item.isEquals]
  | ident =>
    rw [List.countP_append, Mode.countP_kept]
    simp [Item.isEquals]
  | value | repeated | hoisted => rfl

theorem Item.convert_countP_isConvertible {mode : Mode} (hk : mode.options.keepDefault = true)
    (g : FreshNames) (item : Item) :
    (item.convert mode g).conversion.items.countP isConvertible = [item].countP isConvertible := by
  rcases item.convert_cases_of_form mode g with ⟨-, h⟩ | ⟨hc, e, items, g', h, hconv⟩
  · rw [h]; rfl
  · rw [h, List.countP_singleton, if_pos hc]
    exact hconv.convertible_once hk

theorem Item.convert_countP_isEquals (mode : Mode) (g : FreshNames) (item : Item) :
    (item.convert mode g).conversion.items.countP isEquals =
      [item].countP isEquals + [item].countP isConvertible := by
  rcases item.convert_cases_of_form mode g with ⟨hc, h⟩ | ⟨hc, e, items, g', h, hconv⟩
  · have hnone : [item].countP isConvertible = 0 := by
      rw [List.countP_singleton, if_neg (by simp [hc])]
    rw [h, hnone]
    rfl
  · rw [h, List.countP_singleton, List.countP_singleton, if_pos hc, isEquals_of_convertible hc]
    exact hconv.equals_once

/-! ## Bodies -/

/-- A body is left with as many convertible items as it had. -/
theorem Item.convertAll_countP_isConvertible {mode : Mode}
    (hk : mode.options.keepDefault = true) :
    ∀ (body : List Item) (g : FreshNames),
      (Step.output (convertAll mode g body)).countP isConvertible = body.countP isConvertible
  | [], _ => rfl
  | item :: body, g => by
    rw [convertAll, Step.output_cons, List.countP_append, item.convert_countP_isConvertible hk,
      convertAll_countP_isConvertible hk body, ← List.countP_append, List.singleton_append]

/-- A body gets an `export =` for each of its convertible items. -/
theorem Item.convertAll_countP_isEquals (mode : Mode) :
    ∀ (body : List Item) (g : FreshNames),
      (Step.output (convertAll mode g body)).countP isEquals =
        body.countP isEquals + body.countP isConvertible
  | [], _ => rfl
  | item :: body, g => by
    have hhead : ∀ p : Item → Bool, (item :: body).countP p = [item].countP p + body.countP p :=
      fun p => by rw [← List.countP_append, List.singleton_append]
    rw [convertAll, Step.output_cons, List.countP_append, item.convert_countP_isEquals,
      convertAll_countP_isEquals mode body, hhead, hhead, Nat.add_add_add_comm]

/-! ## Passes over a file -/

namespace SourceFile

/-- How many items of a file are convertible. -/
def convertibles (f : SourceFile) : Nat := f.module.body.countP Item.isConvertible

/-- How many items of a file are `export =`. -/
def assignments (f : SourceFile) : Nat := f.module.body.countP Item.isEquals

/-- The names that a file reports besides `export=`, with repeats, in any order. -/
def otherNames (f : SourceFile) : Multiset String :=
  Multiset.filter (· ≠ equalsName) (f.module.exportedNames.getD [] : List String)

/-- Convert a file `n` times over. -/
def passes (options : Options) (n : Nat) (f : SourceFile) : SourceFile :=
  (fun f => (f.convert options).result)^[n] f

theorem replaced_eq_convertibles (f : SourceFile) (options : Options) :
    Step.replaced (f.steps options) = f.convertibles :=
  Item.replaced_convertAll _ _ _

/-- The file `p` is what `n` passes make of `f`, as far as its exports go. -/
structure Grown (f : SourceFile) (n : Nat) (p : SourceFile) : Prop where
  name : p.name = f.name
  convertibles : p.convertibles = f.convertibles
  assignments : p.assignments = f.assignments + n * f.convertibles
  otherNames : p.otherNames = f.otherNames

variable {f p : SourceFile} {options : Options} {n : Nat}

/-- **One pass.** -/
theorem Grown.convert (hk : options.keepDefault = true) (h : f.Grown n p) :
    f.Grown (n + 1) (p.convert options).result := by
  refine ⟨h.name, ?_, ?_, ?_⟩
  · have hpass : (p.convert options).result.convertibles = p.convertibles := by
      have hmode : (p.mode options).options.keepDefault = true := hk
      exact Item.convertAll_countP_isConvertible hmode _ _
    exact hpass.trans h.convertibles
  · have hpass : (p.convert options).result.assignments = p.assignments + p.convertibles :=
      Item.convertAll_countP_isEquals _ _ _
    rw [hpass, h.assignments, h.convertibles, Nat.add_assoc, Nat.succ_mul]
  · have hnames := (p.rebalanced options).kept hk
    have hadded : Multiset.filter (· ≠ equalsName)
        (Multiset.replicate (Step.replaced (p.steps options)) equalsName) = 0 :=
      Multiset.filter_eq_nil.2 fun x hx => not_not.2 (Multiset.eq_of_mem_replicate hx)
    rw [← h.otherNames, SourceFile.otherNames, hnames, Multiset.filter_add, hadded, add_zero]
    rfl

/-- **All passes.** -/
theorem grown_passes (hk : options.keepDefault = true) (f : SourceFile) (n : Nat) :
    f.Grown n (f.passes options n) := by
  induction n with
  | zero => exact ⟨rfl, rfl, by rw [Nat.zero_mul]; rfl, rfl⟩
  | succ n ih =>
    rw [passes, Function.iterate_succ_apply']
    exact ih.convert hk

end SourceFile

/-! ## Passes of a compilation -/

section
variable {c : Compilation} {options : Options} {f : SourceFile}

/-- A root is always converted where named exports are allowed. -/
theorem Compilation.apply_of_allowed (hc : c.oracle = Oracle.syntactic)
    (hr : c.roots.contains f.name = true) (ha : options.allowNamed = true) :
    (c.apply options f).result = .ok (f.convert options).result := by
  rcases c.apply_syntactic hc hr options with ⟨-, ha', -⟩ | ⟨-, hok⟩
  · rw [ha] at ha'; cases ha'
  · exact hok

theorem Compilation.applyTimes_of_allowed (hc : c.oracle = Oracle.syntactic)
    (ha : options.allowNamed = true) (n : Nat) (hr : c.roots.contains f.name = true) :
    c.applyTimes options n f = .ok (f.passes options n) := by
  induction n generalizing f with
  | zero => rfl
  | succ n ih =>
    rw [applyTimes, apply_of_allowed hc hr ha]
    exact ih hr

/-- A file that has something to convert reports a default. -/
theorem SourceFile.defaults_ne_zero (h : f.convertibles ≠ 0) : f.defaults ≠ 0 := by
  intro hz
  have hnone := not_convertible_of_no_default (defaults_eq_zero_iff.1 hz)
  refine h (List.countP_eq_zero.2 fun item hi => ?_)
  simp [hnone item hi]

/-- **Further transformations, with the default export kept.**  A changed file is
    refused the next time for its `export=`, unless named exports are allowed.
    If they are, every pass changes the file: it replaces as many items as the
    first one and adds as many `export =`, and leaves all other names that are
    reported. -/
theorem Compilation.apply_again_kept {g : SourceFile} (hc : c.oracle = Oracle.syntactic)
    (hk : options.keepDefault = true) (h : (c.apply options f).result = .ok g) (hne : g ≠ f) :
    (options.allowNamed = false →
      (c.apply options g).result = .error (.namedExports f.name)) ∧
    (options.allowNamed = true → ∀ n, ∃ p, c.applyTimes options n f = .ok p ∧
      (c.apply options p).result = .ok (p.convert options).result ∧
      (p.convert options).result ≠ p ∧
      Step.replaced (p.steps options) = Step.replaced (f.steps options) ∧
      p.assignments = f.assignments + n * Step.replaced (f.steps options) ∧
      p.otherNames = f.otherNames) := by
  obtain ⟨hr, rfl⟩ := eq_convert_of_ne hc h hne
  have hpos : f.convertibles ≠ 0 := fun hz => by
    rw [← f.replaced_eq_convertibles options] at hz
    exact hne (SourceFile.convert_eq_self hz)
  constructor
  · intro ha
    have hgrown := SourceFile.grown_passes hk f 1
    have hdefaults : (f.convert options).result.defaults ≠ 0 :=
      SourceFile.defaults_ne_zero (hgrown.convertibles ▸ hpos)
    rcases apply_of_equals (f := (f.convert options).result) hc hr
      (SourceFile.equals_of_convert_ne hne) options with ⟨-, -, he⟩ | ⟨hm, -⟩
    · exact he
    · exact absurd ⟨hdefaults, ha⟩ hm
  · intro ha n
    have hgrown := SourceFile.grown_passes hk f n
    have hroot : c.roots.contains (f.passes options n).name = true := hgrown.name ▸ hr
    simp only [SourceFile.replaced_eq_convertibles]
    refine ⟨_, applyTimes_of_allowed hc ha n hr, apply_of_allowed hc hroot ha, fun hq => ?_,
      hgrown.convertibles, hgrown.assignments, hgrown.otherNames⟩
    -- a file that stays as it is would have no further `export =`
    have hnext := (SourceFile.grown_passes hk (f.passes options n) 1).assignments
    rw [show (f.passes options n).passes options 1 = f.passes options n from hq,
      hgrown.convertibles] at hnext
    omega

end

/-- A function merged with an interface, whose default exports are all that its
    file reports, takes another `export =` in each pass. -/
theorem Compilation.apply_again_kept_merged :
    let c : Compilation := ⟨Roots.ofList ["a.ts"], Oracle.syntactic⟩
    let f := SourceFile.mergedDefaults
    (∃ g, (c.apply ⟨true, false⟩ f).result = .ok g ∧ g ≠ f ∧
      (c.apply ⟨true, false⟩ g).result = .error (.namedExports "a.ts")) ∧
    (∃ g, (c.apply ⟨true, true⟩ f).result = .ok g ∧ g ≠ f) ∧
    ∀ n, ∃ p, c.applyTimes ⟨true, true⟩ n f = .ok p ∧
      (c.apply ⟨true, true⟩ p).result = .ok (p.convert ⟨true, true⟩).result ∧
      (p.convert ⟨true, true⟩).result ≠ p ∧
      Step.replaced (p.steps ⟨true, true⟩) = 1 ∧ p.assignments = n ∧
      p.otherNames = {defaultName, defaultName} := by
  intro c f
  have hok : ∀ allowNamed, (c.apply ⟨true, allowNamed⟩ f).result =
      .ok (f.convert ⟨true, allowNamed⟩).result := fun allowNamed => by
    cases allowNamed <;> rfl
  have hne : ∀ allowNamed, (f.convert ⟨true, allowNamed⟩).result ≠ f := fun allowNamed h => by
    have hlength := congrArg (fun f : SourceFile => f.module.body.length) h
    cases allowNamed <;> exact absurd hlength (by decide)
  have hrefused := (Compilation.apply_again_kept (c := c) rfl rfl (hok false) (hne false)).1 rfl
  have hpasses := (Compilation.apply_again_kept (c := c) rfl rfl (hok true) (hne true)).2 rfl
  refine ⟨⟨_, hok false, hne false, hrefused⟩, ⟨_, hok true, hne true⟩, fun n => ?_⟩
  obtain ⟨p, hp, hpass, hchanged, hreplaced, hassignments, hnames⟩ := hpasses n
  refine ⟨p, hp, hpass, hchanged, hreplaced, ?_, hnames.trans (by decide)⟩
  have hgrowth : f.assignments + n * Step.replaced (f.steps ⟨true, true⟩) = 0 + n * 1 := rfl
  rw [hassignments, hgrowth, Nat.zero_add, Nat.mul_one]

end SoleExport
