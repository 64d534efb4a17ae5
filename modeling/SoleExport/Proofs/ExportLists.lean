/-
  The default entry of an export list.

  An export list may export a default several times over, by identifiers, by
  string literals, and beside any other entries.  The rule for it looks for the
  first entry `x as default` with `default` as an identifier
  (`ExportList.FirstRename`), takes that one out, and leaves all others where they
  are.

  * `ExportList.exists_firstRename`, `ExportList.FirstRename.split`: the rule finds
    this entry if there is one;
  * `ExportList.convert_firstRename`: what becomes of a list without a source.
-/
import SoleExport.Proofs.DefaultForms

namespace SoleExport

namespace ExportList

/-- The entry `d` of a list is the first one `x as default`, and stands between
    the others. -/
structure FirstRename (l : ExportList) (before : List Specifier) (d : NamedSpecifier)
    (after : List Specifier) : Prop where
  specifiers : l.specifiers = before ++ .named d :: after
  first : ∀ s ∈ before, s.isDefaultRename = false
  rename : (Specifier.named d).isDefaultRename = true

variable {l : ExportList} {before after : List Specifier} {d : NamedSpecifier}

theorem exists_firstRename (h : l.hasDefaultRename = true) :
    ∃ before d after, l.FirstRename before d after := by
  rw [hasDefaultRename, ← Specifier.splitDefault_isSome, Option.isSome_iff_exists] at h
  obtain ⟨⟨d, others⟩, hd⟩ := h
  obtain ⟨before, after, hl, -, hb, hr⟩ := Specifier.splitDefault_eq_some hd
  refine ⟨before, d, after, hl, fun s hs => ?_, ?_⟩
  · rw [← s.defaultRename?_isSome, hb s hs]
    rfl
  · rw [← Specifier.defaultRename?_isSome, hr]
    rfl

/-- The rule takes the first entry `x as default` out of a list. -/
theorem FirstRename.split (h : l.FirstRename before d after) :
    Specifier.splitDefault l.specifiers = some (d, before ++ after) := by
  obtain ⟨hl, hfirst, hd⟩ := h
  rw [hl]
  clear hl
  induction before with
  | nil =>
    obtain ⟨d', hd'⟩ := Option.isSome_iff_exists.1 ((Specifier.defaultRename?_isSome _).trans hd)
    obtain ⟨hnamed, -⟩ := Specifier.defaultRename?_eq_some hd'
    cases hnamed
    rw [List.nil_append, List.nil_append, Specifier.splitDefault, hd']
  | cons s before ih =>
    have hs : s.defaultRename? = none := by
      rw [← Option.isNone_iff_eq_none, ← Option.not_isSome, s.defaultRename?_isSome,
        hfirst s List.mem_cons_self]
      rfl
    have hrest := ih fun t ht => hfirst t (List.mem_cons_of_mem s ht)
    rw [List.cons_append, Specifier.splitDefault, hs, hrest]
    rfl

/-- The others are none just if the entry stands alone. -/
theorem FirstRename.others_eq_nil_iff (h : l.FirstRename before d after) :
    before ++ after = [] ↔ l.specifiers = [.named d] := by
  rw [h.specifiers]
  constructor
  · intro hnil
    obtain ⟨rfl, rfl⟩ := List.append_eq_nil_iff.1 hnil
    rfl
  · intro hone
    have hlength := congrArg List.length hone
    simp only [List.length_append, List.length_cons, List.length_nil] at hlength
    rw [← List.length_eq_zero_iff, List.length_append]
    omega

theorem remains_of_kept {mode : Mode} (hk : mode.options.keepDefault = true)
    (others : List Specifier) : l.remains mode others = [.exportList l] := if_pos hk

theorem remains_of_not_kept {mode : Mode} (hk : mode.options.keepDefault = false)
    {others : List Specifier} (ho : others ≠ []) :
    l.remains mode others = [.exportList { l with specifiers := others }] := by
  rw [remains, hk, if_neg (by decide), if_neg (by rwa [List.isEmpty_iff])]

/-- **A list without a source loses just one entry.**  It is kept as it is if it
    has no entry `x as default`.  Else the first such entry becomes an `export =`,
    in the place of the list, that designates its local name.  The list stays in
    front of it as it is if the default is kept; if not, it stays without the
    entry, unless that was the only one. -/
theorem convert_firstRename (mode : Mode) (g : FreshNames) (hs : l.source = none) :
    (l.hasDefaultRename = false → l.convert mode g = .keep (.exportList l) g) ∧
    (l.hasDefaultRename = true → ∃ before d after, l.FirstRename before d after) ∧
    ∀ before d after, l.FirstRename before d after →
      ∃ i, (∀ j, d.orig = .ident j → i = j) ∧
        (mode.options.keepDefault = true → (l.convert mode g).conversion =
          .replace [.exportList l, .exportEquals l.span (.ident i)]) ∧
        (mode.options.keepDefault = false → l.specifiers = [.named d] →
          (l.convert mode g).conversion = .replace [.exportEquals l.span (.ident i)]) ∧
        (mode.options.keepDefault = false → l.specifiers ≠ [.named d] →
          (l.convert mode g).conversion =
            .replace [.exportList { l with specifiers := before ++ after },
              .exportEquals l.span (.ident i)]) := by
  refine ⟨fun hr => ?_, exists_firstRename, fun before d after hfirst => ?_⟩
  · rcases Item.convert_cases_of_form mode g (.exportList l) with ⟨-, hkeep⟩ | ⟨hc, -⟩
    · exact hkeep
    · rw [Item.isConvertible, hr, Bool.and_false] at hc
      cases hc
  · obtain ⟨i, g', -, hgives⟩ := (Target.specifier d).assign_cases .equals l.span g
    have hconvert : l.convert mode g = _ := (Converted.list hs hfirst.split hgives).convert_eq
    rw [hconvert]
    refine ⟨i, fun j hj => ?_, fun hk => ?_, fun hk hone => ?_, fun hk hmore => ?_⟩
    · rw [Target.ident?, hj] at hgives
      cases hgives
      rfl
    · rw [remains_of_kept hk]
      rfl
    · rw [hfirst.others_eq_nil_iff.2 hone, remains, hk]
      rfl
    · rw [remains_of_not_kept hk fun ho => hmore (hfirst.others_eq_nil_iff.1 ho)]
      rfl

/-- `export { a as "default", b as default, c as default }` -/
def threeDefaults : ExportList where
  span := ⟨1, 54⟩
  specifiers := [
    .named ⟨⟨10, 24⟩, .ident ⟨⟨10, 11⟩, 0, "a", false⟩, some (.literal (.node "StringLiteral" [
      ("span", .span ⟨15, 24⟩), ("value", .str "default"), ("raw", .str "\"default\"")])), false⟩,
    .named ⟨⟨26, 38⟩, .ident ⟨⟨26, 27⟩, 0, "b", false⟩,
      some (.ident ⟨⟨31, 38⟩, 0, "default", false⟩), false⟩,
    .named ⟨⟨40, 52⟩, .ident ⟨⟨40, 41⟩, 0, "c", false⟩,
      some (.ident ⟨⟨45, 52⟩, 0, "default", false⟩), false⟩]
  source := none
  typeOnly := false
  attributes := .null

/-- The second of three entries is converted: the first one has a string literal,
    and the third one is not the first. -/
theorem convert_firstRename_threeDefaults :
    let l := threeDefaults
    let d : NamedSpecifier := ⟨⟨26, 38⟩, .ident ⟨⟨26, 27⟩, 0, "b", false⟩,
      some (.ident ⟨⟨31, 38⟩, 0, "default", false⟩), false⟩
    let equals : Item := .exportEquals ⟨1, 54⟩ (.ident ⟨⟨26, 27⟩, 0, "b", false⟩)
    l.FirstRename (l.specifiers.take 1) d (l.specifiers.drop 2) ∧
    (l.convert ⟨⟨true, true⟩, false⟩ ⟨[], 0⟩).conversion = .replace [.exportList l, equals] ∧
    (l.convert ⟨⟨false, true⟩, false⟩ ⟨[], 0⟩).conversion =
      .replace [.exportList { l with specifiers := l.specifiers.eraseIdx 1 }, equals] := by
  intro l d equals
  have hfirst : l.FirstRename (l.specifiers.take 1) d (l.specifiers.drop 2) :=
    ⟨rfl, by decide, rfl⟩
  refine ⟨hfirst, ?_, ?_⟩
  · obtain ⟨i, hi, hkept, -⟩ :=
      (convert_firstRename ⟨⟨true, true⟩, false⟩ ⟨[], 0⟩ (l := l) rfl).2.2 _ _ _ hfirst
    obtain rfl := hi _ rfl
    exact hkept rfl
  · obtain ⟨i, hi, -, -, hpruned⟩ :=
      (convert_firstRename ⟨⟨false, true⟩, false⟩ ⟨[], 0⟩ (l := l) rfl).2.2 _ _ _ hfirst
    obtain rfl := hi _ rfl
    exact hpruned rfl (by decide)

end ExportList

end SoleExport
