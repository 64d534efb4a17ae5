/-
  What a transformation leaves alone.

  Whatever an oracle says, a file is refused, passed over or converted, and only
  its body can change.  `Rewritten` says what stands in the place of each item
  of a body: the item itself, or what a rule makes of it; one supply of fresh
  names serves all of them.

  * `Item.convertAll_rewritten`: a body is rewritten part by part;
  * `Compilation.apply_frame`: the outcome of a transformation for any oracle,
    and what it leaves of the file.
-/
import SoleExport.Proofs.DefaultForms

namespace SoleExport

/-! ## Bodies -/

/-- The parts that stand in the place of the items of a body.  An item of a form
    that no rule converts stands for itself, and any other is replaced by what a
    rule makes of it with the fresh names that the items before it left. -/
inductive Item.Rewritten (mode : Mode) : FreshNames → List Item → List (List Item) → Prop
  | nil {g} : Rewritten mode g [] []
  | kept {g item body parts} : item.isConvertible = false → Rewritten mode g body parts →
      Rewritten mode g (item :: body) ([item] :: parts)
  | replaced {g g' item e items body parts} : item.isConvertible = true →
      Converted mode g item e items g' → Rewritten mode g' body parts →
      Rewritten mode g (item :: body) (items :: parts)

/-- One item rewritten ahead of the others. -/
theorem Step.Of.rewritten {mode : Mode} {g : FreshNames} {item : Item} {step : Step}
    {body : List Item} {parts : List (List Item)} (h : Step.Of mode g item step)
    (hform : step.conversion.isReplacement = item.isConvertible)
    (hbody : Item.Rewritten mode step.names body parts) :
    Item.Rewritten mode g (item :: body) (step.conversion.items :: parts) := by
  rcases h with rfl | ⟨e, items, g', rfl, hconv⟩
  · exact .kept hform.symm hbody
  · exact .replaced hform.symm hconv hbody

/-- **A body is rewritten part by part.** -/
theorem Item.convertAll_rewritten (mode : Mode) :
    ∀ (body : List Item) (g : FreshNames),
      Rewritten mode g body ((convertAll mode g body).map fun s => s.conversion.items)
  | [], _ => .nil
  | item :: body, g => by
    have hstep := item.convert_cases mode g
    have hbody := convertAll_rewritten mode body (item.convert mode g).names
    exact hstep.rewritten (item.convert_isReplacement mode g) hbody

/-! ## Files -/

/-- Files that differ in their bodies at most. -/
structure SourceFile.SameFrame (f g : SourceFile) : Prop where
  name : g.name = f.name
  isDeclaration : g.isDeclaration = f.isDeclaration
  span : g.module.span = f.module.span
  interpreter : g.module.interpreter = f.module.interpreter

theorem SourceFile.SameFrame.refl (f : SourceFile) : f.SameFrame f := ⟨rfl, rfl, rfl, rfl⟩

theorem SourceFile.sameFrame_convert (f : SourceFile) (options : Options) :
    f.SameFrame (f.convert options).result := ⟨rfl, rfl, rfl, rfl⟩

/-- A root is refused if a default export is reported next to another name, and
    named exports are not allowed. -/
def Compilation.Refuses (c : Compilation) (options : Options) (f : SourceFile) : Prop :=
  c.roots.contains f.name = true ∧
    (∃ names, c.oracle f = some names ∧ defaultName ∈ names ∧ ∃ n ∈ names, n ≠ defaultName) ∧
    options.allowNamed = false

/-- A file is passed over if it is no root, is reported to be a script, or is
    reported to have no default export. -/
def Compilation.PassesOver (c : Compilation) (f : SourceFile) : Prop :=
  c.roots.contains f.name = false ∨ c.oracle f = none ∨
    ∃ names, c.oracle f = some names ∧ defaultName ∉ names

theorem Compilation.passesOver_iff {c : Compilation} {f : SourceFile} :
    c.PassesOver f ↔ (c.roots.contains f.name = true → ∀ names, c.oracle f = some names →
      defaultName ∉ names) := by
  rw [PassesOver, ← Bool.not_eq_true]
  constructor
  · rintro (hr | ho | ⟨names, ho, hd⟩) hroot names' ho'
    · exact absurd hroot hr
    · rw [ho] at ho'
      cases ho'
    · obtain rfl := Option.some.inj (ho.symm.trans ho')
      exact hd
  · intro h
    by_cases hr : c.roots.contains f.name = true
    · rcases ho : c.oracle f with _ | names
      · exact Or.inr (Or.inl rfl)
      · exact Or.inr (Or.inr ⟨names, rfl, h hr names ho⟩)
    · exact Or.inl hr

theorem Compilation.PassesOver.not_refuses {c : Compilation} {f : SourceFile}
    (h : c.PassesOver f) (options : Options) : ¬ c.Refuses options f := by
  rintro ⟨hr, ⟨names, ho, hd, -⟩, -⟩
  exact passesOver_iff.1 h hr names ho hd

/-- **The outcome of a transformation, and its frame**, whatever the oracle says.
    A file is refused under its own name, or comes back.  What comes back is the
    file itself if it is passed over; else its body consists of the parts that
    stand in the place of its items, in their order, with fresh names that the
    module spells nowhere, and nothing else about it has changed. -/
theorem Compilation.apply_frame (c : Compilation) (options : Options) (f : SourceFile) :
    (c.Refuses options f ∧ (c.apply options f).result = .error (.namedExports f.name)) ∨
    (¬ c.Refuses options f ∧ ∃ g, (c.apply options f).result = .ok g ∧ f.SameFrame g ∧
      ((c.PassesOver f ∧ g = f) ∨
        (¬ c.PassesOver f ∧ ∃ parts,
          Item.Rewritten (f.mode options) (FreshNames.ofModule f.module) f.module.body parts ∧
            g.module.body = parts.flatten))) := by
  have ho := c.apply_cases options f
  generalize (c.apply options f).result = r at ho ⊢
  cases ho with
  | same h =>
    have hp : c.PassesOver f := passesOver_iff.2 h
    exact Or.inr ⟨hp.not_refuses options, f, rfl, .refl f, Or.inl ⟨hp, rfl⟩⟩
  | @refused names hr hn hd hother ha =>
    exact Or.inl ⟨⟨hr, ⟨names, hn, hd, hother⟩, ha⟩, rfl⟩
  | @converted names hr hn hd hall =>
    refine Or.inr ⟨?_, (f.convert options).result, rfl, f.sameFrame_convert options,
      Or.inr ⟨fun hp => passesOver_iff.1 hp hr names hn hd, _,
        Item.convertAll_rewritten _ _ _, ?_⟩⟩
    · rintro ⟨-, ⟨names', hn', -, n, hmem, hne⟩, ha⟩
      obtain rfl := Option.some.inj (hn.symm.trans hn')
      exact hne (hall ha n hmem)
    · rw [SourceFile.convert_body, Step.output, List.flatMap_def]
      rfl

end SoleExport
