/-
  The verdict and what comes of it.

  A check tells from the exported names alone what a transformation would do
  (`SourceFile.verdict_on`).

  * `Compilation.verdict_predicts`: it is right about the files that are refused,
    and about the others where a default export has a form that is converted;
  * `Compilation.verdict_overstates`: a default export of another form, such as
    that of an interface, is announced to be converted and yet left as it is.
-/
import SoleExport.Proofs.DefaultForms
import SoleExport.Proofs.Sessions

namespace SoleExport

/-! ## Verdicts -/

/-- What a verdict on a file says about the names that it exports. -/
inductive Verdict.On (allowNamed : Bool) (f : SourceFile) : Verdict → Prop
  | script : f.module.exportedNames = none → On allowNamed f .script
  | noDefault {names} : f.module.exportedNames = some names → defaultName ∉ names →
      On allowNamed f .noDefault
  | refused : f.MixesDefault → allowNamed = false → On allowNamed f .refused
  | converted {names b} : f.module.exportedNames = some names → defaultName ∈ names →
      (b = true ↔ ∃ n ∈ names, n ≠ defaultName) → ¬ (f.MixesDefault ∧ allowNamed = false) →
      On allowNamed f (.converted b)

theorem SourceFile.verdict_on (f : SourceFile) (allowNamed : Bool) :
    Verdict.On allowNamed f (f.verdict allowNamed) := by
  have hsurface : Oracle.syntactic.surface f = f.module.exportedNames.map Surface.ofNames := rfl
  rw [verdict, hsurface]
  rcases hn : f.module.exportedNames with _ | names
  · exact .script hn
  rw [Option.map_some, Verdict.ofSurface]
  by_cases hd : (Surface.ofNames names).hasDefault
  · have hd' := Surface.ofNames_hasDefault.1 hd
    have hmix : f.MixesDefault ↔ (Surface.ofNames names).hasNamed = true := by
      rw [Surface.ofNames_hasNamed]
      constructor
      · rintro ⟨names', hn', -, hother⟩
        obtain rfl : names = names' := Option.some.inj (hn.symm.trans hn')
        exact hother
      · exact fun hother => ⟨names, hn, hd', hother⟩
    rw [if_neg (by simp [hd])]
    by_cases hr : (Surface.ofNames names).hasNamed = true ∧ allowNamed = false
    · rw [if_pos (by simpa using hr)]
      exact .refused (hmix.2 hr.1) hr.2
    · rw [if_neg (by simpa using hr)]
      exact .converted hn hd' Surface.ofNames_hasNamed (by rwa [hmix])
  · rw [if_pos (by simpa using hd)]
    exact .noDefault hn fun hmem => hd (Surface.ofNames_hasDefault.2 hmem)

theorem SourceFile.verdict_eq_refused_iff {f : SourceFile} {allowNamed : Bool} :
    f.verdict allowNamed = .refused ↔ f.MixesDefault ∧ allowNamed = false := by
  have h := f.verdict_on allowNamed
  generalize f.verdict allowNamed = v at h ⊢
  cases h with
  | script hn =>
    refine ⟨fun h => (by cases h), ?_⟩
    rintro ⟨⟨names, hn', -⟩, -⟩
    rw [hn] at hn'; cases hn'
  | noDefault hn hd =>
    refine ⟨fun h => (by cases h), ?_⟩
    rintro ⟨⟨names, hn', hd', -⟩, -⟩
    obtain rfl := Option.some.inj (hn.symm.trans hn')
    exact absurd hd' hd
  | refused hm ha => exact ⟨fun _ => ⟨hm, ha⟩, fun _ => rfl⟩
  | converted _ _ _ hnot => exact ⟨fun h => (by cases h), fun h => absurd h hnot⟩

/-- A file that is not refused is announced to be converted, or has nothing to
    convert. -/
theorem SourceFile.verdict_cases {f : SourceFile} {allowNamed : Bool}
    (hv : f.verdict allowNamed ≠ .refused) :
    ((f.verdict allowNamed = .script ∨ f.verdict allowNamed = .noDefault) ∧
      ∀ item ∈ f.module.body, item.isConvertible = false) ∨
    ∃ b, f.verdict allowNamed = .converted b := by
  have h := f.verdict_on allowNamed
  generalize f.verdict allowNamed = v at h hv ⊢
  cases h with
  | script hn =>
    refine Or.inl ⟨Or.inl rfl, not_convertible_of_no_default fun names hn' => ?_⟩
    rw [hn] at hn'; cases hn'
  | noDefault hn hd =>
    refine Or.inl ⟨Or.inr rfl, not_convertible_of_no_default fun names hn' => ?_⟩
    obtain rfl := Option.some.inj (hn.symm.trans hn')
    exact hd
  | refused => exact absurd rfl hv
  | converted => exact Or.inr ⟨_, rfl⟩

/-! ## Predictions -/

/-- A root is refused or converted as its verdict says. -/
theorem Compilation.apply_of_verdict {c : Compilation} (hc : c.oracle = Oracle.syntactic)
    {f : SourceFile} (hr : c.roots.contains f.name = true) (options : Options) :
    (f.verdict options.allowNamed = .refused ∧
      (c.apply options f).result = .error (.namedExports f.name)) ∨
    (f.verdict options.allowNamed ≠ .refused ∧
      (c.apply options f).result = .ok (f.convert options).result) := by
  rw [ne_eq, SourceFile.verdict_eq_refused_iff]
  rcases c.apply_syntactic hc hr options with ⟨hm, ha, he⟩ | ⟨hnot, hok⟩
  · exact Or.inl ⟨⟨hm, ha⟩, he⟩
  · exact Or.inr ⟨hnot, hok⟩

/-- Nothing is convertible iff every default export has a form that is left. -/
theorem SourceFile.leavesDefault_iff (f : SourceFile) :
    (∀ item ∈ f.module.body, defaultName ∈ item.exportedNames → item.LeavesDefault) ↔
      ∀ item ∈ f.module.body, item.isConvertible = false := by
  refine forall₂_congr fun item _ => ?_
  rw [item.exports_default_iff]
  constructor
  · intro h
    by_contra hi
    rw [Bool.not_eq_false] at hi
    exact absurd hi (by rw [(h (Or.inl hi)).isConvertible]; decide)
  · intro hi h
    exact h.resolve_left (by simp [hi])

section
variable {c : Compilation} {f : SourceFile} {options : Options}

theorem Compilation.apply_refused_iff (hc : c.oracle = Oracle.syntactic)
    (hr : c.roots.contains f.name = true) :
    (c.apply options f).result = .error (.namedExports f.name) ↔
      f.verdict options.allowNamed = .refused := by
  rcases apply_of_verdict hc hr options with ⟨hv, he⟩ | ⟨hv, hok⟩
  · simp [he, hv]
  · simp [hok, hv]

theorem Compilation.apply_changed_iff (hc : c.oracle = Oracle.syntactic)
    (hr : c.roots.contains f.name = true) :
    (∃ g, (c.apply options f).result = .ok g ∧ g ≠ f) ↔
      (∃ b, f.verdict options.allowNamed = .converted b) ∧
        ∃ item ∈ f.module.body, item.isConvertible = true := by
  rcases apply_of_verdict hc hr options with ⟨hv, he⟩ | ⟨hv, hok⟩
  · simp [he, hv]
  · simp only [hok, Except.ok.injEq, exists_eq_left', ne_eq, f.convert_eq_self_iff, not_forall,
      Bool.not_eq_false, exists_prop]
    refine ⟨fun h => ⟨?_, h⟩, fun h => h.2⟩
    obtain ⟨item, hi, hconv⟩ := h
    rcases SourceFile.verdict_cases hv with ⟨-, hnone⟩ | hb
    · rw [hnone item hi] at hconv; cases hconv
    · exact hb

theorem Compilation.apply_same_iff (hc : c.oracle = Oracle.syntactic)
    (hr : c.roots.contains f.name = true) :
    (c.apply options f).result = .ok f ↔
      (f.verdict options.allowNamed = .script ∨ f.verdict options.allowNamed = .noDefault) ∨
        (∃ b, f.verdict options.allowNamed = .converted b) ∧
          ∀ item ∈ f.module.body, defaultName ∈ item.exportedNames → item.LeavesDefault := by
  rw [f.leavesDefault_iff]
  rcases apply_of_verdict hc hr options with ⟨hv, he⟩ | ⟨hv, hok⟩
  · simp [he, hv]
  · rw [hok, Except.ok.injEq, f.convert_eq_self_iff]
    rcases SourceFile.verdict_cases hv with ⟨hv', hnone⟩ | ⟨b, hb⟩
    · exact ⟨fun _ => Or.inl hv', fun _ => hnone⟩
    · simp [hb]

end

/-- **What a verdict predicts** of the transformation of a root that keeps no
    default.  A file is refused iff the check fails.  It is changed iff it is
    announced to be converted and an item has a default export of a form that is
    converted; it stays as it is iff it is announced to, or all of its default
    exports have forms that are left. -/
theorem Compilation.verdict_predicts {c : Compilation} (hc : c.oracle = Oracle.syntactic)
    {f : SourceFile} (hr : c.roots.contains f.name = true) (allowNamed : Bool) :
    ((c.apply ⟨false, allowNamed⟩ f).result = .error (.namedExports f.name) ↔
      f.verdict allowNamed = .refused) ∧
    ((∃ g, (c.apply ⟨false, allowNamed⟩ f).result = .ok g ∧ g ≠ f) ↔
      (∃ b, f.verdict allowNamed = .converted b) ∧
        ∃ item ∈ f.module.body, item.isConvertible = true) ∧
    ((c.apply ⟨false, allowNamed⟩ f).result = .ok f ↔
      (f.verdict allowNamed = .script ∨ f.verdict allowNamed = .noDefault) ∨
        (∃ b, f.verdict allowNamed = .converted b) ∧
          ∀ item ∈ f.module.body, defaultName ∈ item.exportedNames → item.LeavesDefault) ∧
    ∀ (s : Session) (source : String) (p : Parsed), s.directory.read f.name = .ok source →
      parse f.name source = .ok p → p.module = f.module →
      (Session.host.check f.name allowNamed).run s =
        if f.verdict allowNamed = .refused then
          (.error (.refused ((f.verdict allowNamed).message f.name)), s)
        else
          (.ok (), { s with
            reported := s.reported ++ [(f.verdict allowNamed).message f.name] }) :=
  ⟨apply_refused_iff hc hr, apply_changed_iff hc hr, apply_same_iff hc hr,
    fun _ _ _ hread hparse hp => by rw [Session.check_run hread hparse, hp]⟩

/-- `export default interface I {}` -/
def SourceFile.defaultInterface : SourceFile where
  name := "a.ts"
  module := ⟨⟨1, 31⟩, none, [
    .defaultInterface ⟨1, 31⟩ (.node "TsInterfaceDeclaration" [
      ("span", .span ⟨16, 31⟩), ("id", (Ident.mk ⟨26, 27⟩ 0 "I" false).toTree),
      ("declare", .bool false), ("typeParams", .null), ("extends", .list []),
      ("body", .node "TsInterfaceBody" [("span", .span ⟨28, 31⟩), ("body", .list [])])])]⟩

/-- A directory that holds just the text of that file. -/
def Session.ofDefaultInterface : Session :=
  .start (Directory.ofFiles [("a.ts", .text "export default interface I \x7b\n\x7d\n")])

/-- An interface is announced to be converted, and left. -/
theorem Compilation.verdict_predicts_interface :
    (Roots.ofList ["./a.ts"]).contains SourceFile.defaultInterface.name = true ∧
    SourceFile.defaultInterface.verdict false = .converted false ∧
    (¬ ∃ g, ((Compilation.mk (Roots.ofList ["./a.ts"]) Oracle.syntactic).apply ⟨false, false⟩
      .defaultInterface).result = .ok g ∧ g ≠ .defaultInterface) ∧
    ((Compilation.mk (Roots.ofList ["./a.ts"]) Oracle.syntactic).apply ⟨false, false⟩
      .defaultInterface).result = .ok .defaultInterface ∧
    ((Session.host.check "a.ts" false).run .ofDefaultInterface).2.reported =
      ["a.ts: default export would be rewritten (named exports: false)"] := by
  have hr : (Roots.ofList ["./a.ts"]).contains SourceFile.defaultInterface.name = true := by decide
  have hv : SourceFile.defaultInterface.verdict false = .converted false := by decide
  have hread : Session.ofDefaultInterface.directory.read "a.ts" =
      .ok "export default interface I \x7b\n\x7d\n" := rfl
  obtain ⟨p, hparse, hp⟩ :
      ∃ p, parse "a.ts" "export default interface I \x7b\n\x7d\n" = .ok p ∧
        p.module = SourceFile.defaultInterface.module := ⟨_, rfl, rfl⟩
  obtain ⟨-, hchanged, hsame, hcheck⟩ := Compilation.verdict_predicts
    (c := ⟨Roots.ofList ["./a.ts"], Oracle.syntactic⟩) rfl hr false
  refine ⟨hr, hv, fun h => ?_, hsame.2 (Or.inr ⟨⟨false, hv⟩, ?_⟩), ?_⟩
  · obtain ⟨-, item, hi, hconv⟩ := hchanged.1 h
    rw [List.mem_singleton.1 hi] at hconv
    cases hconv
  · intro item hi _
    rw [List.mem_singleton.1 hi]
    exact .interface
  · have hrun := hcheck .ofDefaultInterface _ p hread hparse hp
    rw [hv, if_neg (by decide)] at hrun
    exact congrArg (fun r => r.2.reported) hrun

/-- **Not every file is converted that is announced to be**: a default interface
    stays as it is. -/
theorem Compilation.verdict_overstates :
    ¬ ∀ (roots : Roots) (f : SourceFile) (allowNamed : Bool), roots.contains f.name = true →
      ((∃ b, f.verdict allowNamed = .converted b) ↔
        ∃ g, ((Compilation.mk roots Oracle.syntactic).apply ⟨false, allowNamed⟩ f).result = .ok g ∧
          g ≠ f) := by
  intro h
  obtain ⟨g, hg, hne⟩ :=
    (h (Roots.ofList ["a.ts"]) .defaultInterface false (by decide)).1 ⟨false, by decide⟩
  have hsame : ((Compilation.mk (Roots.ofList ["a.ts"]) Oracle.syntactic).apply ⟨false, false⟩
      .defaultInterface).result = .ok .defaultInterface := rfl
  exact hne (Except.ok.inj (hg.symm.trans hsame))

end SoleExport
