/-
  The spelling of identifiers.

  A transformation compares names with `default`, and looks for fresh names
  among `default_1`, `default_2`, …; all other names are only carried along.  So
  a renaming that keeps these apart from the others (`KeepsReserved`) may be done
  before a transformation as well as after it.

  * `Item.isConvertible_rename`, `Oracle.surface_rename`: the same items have the
    same forms, and a file has the same surface;
  * `FreshNames.next_rename`: the same fresh names are free;
  * `Converted.rename`: a conversion of a renamed item is the renamed
    conversion; `Item.convert_rename` says so of an item, and
    `Item.convertAll_rename` of a body;
  * `Compilation.apply_rename`: transformations commute with renamings.
-/
import SoleExport.Proofs.DefaultForms
import SoleExport.Proofs.FreshNames
import SoleExport.Proofs.Renaming

namespace SoleExport

/-- A renaming by which no name becomes `default` or a candidate for a fresh name
    but these themselves. -/
structure KeepsReserved (s : String → String) : Prop where
  default : ∀ x, s x = defaultName ↔ x = defaultName
  fresh : ∀ k, 0 < k → ∀ x, s x = FreshNames.spelling k ↔ x = FreshNames.spelling k

/-! ## Exported names -/

section
variable (s : String → String)

mutual
theorem Pattern.names_rename : ∀ p : Pattern, (p.rename s).names = p.names.map s
  | .hole | .ident _ _ | .other _ => rfl
  | .array ps _ => Pattern.namesList_rename ps
  | .object qs _ => PatternProperty.namesList_rename qs
  | .rest p _ => Pattern.names_rename p
  | .assign p _ => Pattern.names_rename p
theorem Pattern.namesList_rename :
    ∀ ps : List Pattern,
      Pattern.namesList (Pattern.renameList s ps) = (Pattern.namesList ps).map s
  | [] => rfl
  | p :: ps => by
    rw [Pattern.renameList, Pattern.namesList, Pattern.names_rename p,
      Pattern.namesList_rename ps, Pattern.namesList, List.map_append]
theorem PatternProperty.names_rename :
    ∀ q : PatternProperty, (q.rename s).names = q.names.map s
  | .keyValue p _ => Pattern.names_rename p
  | .shorthand _ _ _ | .other _ => rfl
  | .rest p _ => Pattern.names_rename p
theorem PatternProperty.namesList_rename :
    ∀ qs : List PatternProperty,
      PatternProperty.namesList (PatternProperty.renameList s qs) =
        (PatternProperty.namesList qs).map s
  | [] => rfl
  | q :: qs => by
    rw [PatternProperty.renameList, PatternProperty.namesList, PatternProperty.names_rename q,
      PatternProperty.namesList_rename qs, PatternProperty.namesList, List.map_append]
end

theorem Declaration.names_rename (d : Declaration) : (d.rename s).names = d.names.map s := by
  cases d with
  | definition | named | other => rfl
  | «variable» v =>
    simp only [Declaration.rename, Declaration.names, List.flatMap_map, List.map_flatMap,
      Declarator.rename, Pattern.names_rename]

theorem Item.isModuleItem_rename (item : Item) :
    (item.rename s).isModuleItem = item.isModuleItem := by
  cases item <;> rfl

end

/-- Which of some names are `default`. -/
def defaultsAmong (names : List String) : List Bool := names.map (· == defaultName)

/-- The surface of a file is told by which of its names are `default`. -/
theorem Surface.ofNames_congr {names names' : List String}
    (h : defaultsAmong names = defaultsAmong names') : ofNames names = ofNames names' := by
  have hdefault : ∀ ns : List String, ns.any (· == defaultName) = (defaultsAmong ns).any id :=
    fun ns => by rw [defaultsAmong, List.any_map]; rfl
  have hnamed : ∀ ns : List String, ns.any (· != defaultName) = (defaultsAmong ns).any (!·) :=
    fun ns => by rw [defaultsAmong, List.any_map]; rfl
  rw [ofNames, ofNames, hdefault, hdefault, hnamed, hnamed, h]

section
variable {s : String → String} (hs : KeepsReserved s)
include hs

theorem KeepsReserved.beq_default (x : String) : (s x == defaultName) = (x == defaultName) := by
  rw [Bool.eq_iff_iff, beq_iff_eq, beq_iff_eq]
  exact hs.default x

theorem KeepsReserved.defaultsAmong_map (names : List String) :
    defaultsAmong (names.map s) = defaultsAmong names := by
  rw [defaultsAmong, List.map_map]
  exact List.map_congr_left fun x _ => hs.beq_default x

theorem ExportName.reported_rename (n : ExportName) :
    ((n.rename s).reported == defaultName) = (n.reported == defaultName) := by
  cases n with
  | ident i => exact hs.beq_default i.name
  | literal t => rfl

theorem Specifier.exportedName_rename (e : Specifier) :
    ((e.rename s).exportedName == defaultName) = (e.exportedName == defaultName) := by
  cases e with
  | named n =>
    have hname : (n.rename s).exported.getD (n.rename s).orig =
        (n.exported.getD n.orig).rename s := by
      obtain ⟨span, orig, exported, isTypeOnly⟩ := n
      cases exported <;> rfl
    rw [Specifier.rename, Specifier.exportedName, hname]
    exact ExportName.reported_rename hs _
  | wildcard span n => exact ExportName.reported_rename hs n
  | default i => exact hs.beq_default i.name

/-- **A renamed item exports a default where the item does.** -/
theorem Item.exportedNames_rename (item : Item) :
    defaultsAmong (item.rename s).exportedNames = defaultsAmong item.exportedNames := by
  cases item with
  | exportDeclaration span d =>
    rw [Item.rename, exportedNames, d.names_rename]
    exact hs.defaultsAmong_map d.names
  | exportList l =>
    simp only [Item.rename, exportedNames, ExportList.rename, defaultsAmong, List.map_map]
    exact List.map_congr_left fun e _ => Specifier.exportedName_rename hs e
  | importEquals i isExport fs =>
    cases isExport with
    | false => rfl
    | true => exact hs.defaultsAmong_map [i.name]
  | _ => rfl

theorem Oracle.surface_rename (f : SourceFile) :
    Oracle.syntactic.surface (f.rename s) = Oracle.syntactic.surface f := by
  have hmodule : (f.rename s).module.body.any Item.isModuleItem =
      f.module.body.any Item.isModuleItem := by
    rw [SourceFile.rename, Module.rename, List.any_map]
    exact congrArg (f.module.body.any ·) (funext fun item => item.isModuleItem_rename s)
  have hnames : defaultsAmong ((f.rename s).module.body.flatMap Item.exportedNames) =
      defaultsAmong (f.module.body.flatMap Item.exportedNames) := by
    simp only [SourceFile.rename, Module.rename, defaultsAmong, List.flatMap_map,
      List.map_flatMap]
    exact congrArg (f.module.body.flatMap ·)
      (funext fun item => Item.exportedNames_rename hs item)
  unfold surface syntactic Module.exportedNames
  rw [hmodule]
  split_ifs
  · exact congrArg some (Surface.ofNames_congr hnames)
  · rfl

end

/-! ## Fresh names -/

/-- Rename the names that are taken. -/
def FreshNames.rename (s : String → String) (g : FreshNames) : FreshNames :=
  { g with taken := g.taken.map s }

theorem FreshNames.ofModule_rename (s : String → String) (m : Module) :
    ofModule (m.rename s) = (ofModule m).rename s := by
  rw [ofModule, m.identifiers_rename]; rfl

section
variable {s : String → String} (hs : KeepsReserved s)
include hs

theorem KeepsReserved.contains_spelling {k : Nat} (hk : 0 < k) (taken : List String) :
    (taken.map s).contains (FreshNames.spelling k) = taken.contains (FreshNames.spelling k) := by
  rw [Bool.eq_iff_iff, List.contains_iff_mem, List.contains_iff_mem, List.mem_map]
  constructor
  · rintro ⟨x, hx, hsx⟩
    rwa [← (hs.fresh k hk x).1 hsx]
  · exact fun h => ⟨_, h, (hs.fresh k hk _).2 rfl⟩

namespace FreshNames

theorem nextNumber_rename (g : FreshNames) : (g.rename s).nextNumber = g.nextNumber := by
  have hfree : ∀ i, (g.rename s).taken.contains (spelling (g.counter + 1 + i)) =
      g.taken.contains (spelling (g.counter + 1 + i)) :=
    fun i => hs.contains_spelling (by omega) g.taken
  have hlength : (g.rename s).taken.length = g.taken.length := List.length_map s
  have hcounter : (g.rename s).counter = g.counter := rfl
  simp only [nextNumber, hfree, hlength, hcounter]

/-- A fresh name is not renamed. -/
theorem rename_next (g : FreshNames) : s g.next.1 = g.next.1 :=
  (hs.fresh g.nextNumber (Nat.zero_lt_of_lt g.nextNumber_spec.1) _).2 rfl

/-- **The same names are fresh.** -/
theorem next_rename (g : FreshNames) : (g.rename s).next = (g.next.1, g.next.2.rename s) := by
  have hspelling : s (spelling g.nextNumber) = spelling g.nextNumber := rename_next hs g
  rw [next, nextNumber_rename hs, next]
  simp only [rename, List.map_cons, hspelling]

theorem Gives.rename {g g' : FreshNames} {span : Span} {named : Option Ident} {i : Ident}
    (h : g.Gives span named i g') :
    (g.rename s).Gives span (named.map (Ident.rename s)) (i.rename s) (g'.rename s) := by
  cases h with
  | own i => exact .own (i.rename s)
  | fresh =>
    have hfresh : (g.rename s).Gives span none (Ident.generated (g.rename s).next.1 span)
        (g.rename s).next.2 := .fresh
    rw [next_rename hs] at hfresh
    have hi : (Ident.generated g.next.1 span).rename s = Ident.generated g.next.1 span := by
      rw [Ident.rename, Ident.generated, rename_next hs]
    rw [hi]
    exact hfresh

end FreshNames

end

/-! ## One item -/

section
variable {s : String → String}

theorem Expr.ident?_rename (e : Expr) : (e.rename s).ident? = e.ident?.map (Ident.rename s) := by
  induction e with
  | ident | other => rfl
  | paren _ _ ih => exact ih

theorem ExportName.ident?_rename (n : ExportName) :
    (n.rename s).ident? = n.ident?.map (Ident.rename s) := by
  cases n <;> rfl

theorem ExportList.map_remains (mode : Mode) (l : ExportList) (others : List Specifier) :
    (l.remains mode others).map (Item.rename s) =
      (l.rename s).remains mode (others.map (Specifier.rename s)) := by
  unfold remains
  rw [List.isEmpty_map]
  split_ifs <;> rfl

theorem Mode.map_kept (mode : Mode) (item : Item) :
    (mode.kept item).map (Item.rename s) = mode.kept (item.rename s) := by
  unfold kept
  split_ifs <;> rfl

variable (hs : KeepsReserved s)
include hs

theorem Specifier.defaultRename?_rename (e : Specifier) :
    (e.rename s).defaultRename? = e.defaultRename?.map (NamedSpecifier.rename s) := by
  rcases e with ⟨span, orig, _ | i | t, isTypeOnly⟩ | _ | _
  case named.some.ident =>
    have hi : (i.rename s).name = defaultName ↔ i.name = defaultName := hs.default i.name
    simp only [Specifier.rename, NamedSpecifier.rename, Option.map_some, ExportName.rename,
      defaultRename?, hi]
    split_ifs <;> rfl
  all_goals rfl

/-- The same entry of a list is its default. -/
theorem Specifier.splitDefault_rename (es : List Specifier) :
    splitDefault (es.map (Specifier.rename s)) =
      (splitDefault es).map fun r => (r.1.rename s, r.2.map (Specifier.rename s)) := by
  induction es with
  | nil => rfl
  | cons e es ih =>
    rw [List.map_cons, splitDefault, splitDefault, defaultRename?_rename hs, ih]
    rcases e.defaultRename? with _ | d
    · rcases splitDefault es with _ | r <;> rfl
    · rfl

/-- **A renamed item has the form of the item.** -/
theorem Item.isConvertible_rename (item : Item) :
    (item.rename s).isConvertible = item.isConvertible := by
  cases item with
  | exportList l =>
    have hdefault : (l.rename s).hasDefaultRename = l.hasDefaultRename := by
      rw [ExportList.hasDefaultRename, ExportList.hasDefaultRename,
        ← Specifier.splitDefault_isSome, ← Specifier.splitDefault_isSome]
      simp only [ExportList.rename, Specifier.splitDefault_rename hs, Option.isSome_map]
    have hsource : (l.rename s).source.isNone = l.source.isNone := Option.isNone_map
    rw [Item.rename, isConvertible, isConvertible, hdefault, hsource]
  | _ => rfl

/-- **The conversion of a renamed item is the renamed conversion.** -/
theorem Converted.rename {mode : Mode} {g g' : FreshNames} {item : Item} {e : Event}
    {items : List Item} (h : Converted mode g item e items g') :
    Converted mode (g.rename s) (item.rename s) e (items.map (Item.rename s)) (g'.rename s) := by
  cases h with
  | @list l d others i _ hsource hd hg =>
    have hsplit : Specifier.splitDefault (l.rename s).specifiers =
        some (d.rename s, others.map (Specifier.rename s)) :=
      (Specifier.splitDefault_rename hs l.specifiers).trans (by rw [hd]; rfl)
    have hgives : (g.rename s).Gives (l.rename s).span (d.rename s).orig.ident? (i.rename s)
        (g'.rename s) := by
      have hgives := hg.rename hs
      rwa [← ExportName.ident?_rename] at hgives
    have hsource' : (l.rename s).source = none := by rw [ExportList.rename, hsource]; rfl
    have hevent : Event.listConverted (!others.isEmpty) =
        .listConverted (!(others.map (Specifier.rename s)).isEmpty) := by rw [List.isEmpty_map]
    rw [List.map_append, ExportList.map_remains, hevent]
    exact .list (l := l.rename s) hsource' hsplit hgives
  | @definition span n b i _ hg =>
    rw [List.map_cons, List.map_cons, Mode.map_kept]
    exact .definition (b := b.rename s) (hg.rename hs)
  | @ident span e i he =>
    rw [List.map_append, Mode.map_kept]
    exact .ident ((Expr.ident?_rename e).trans (by rw [he]; rfl))
  | @value span e he hk => exact .value ((Expr.ident?_rename e).trans (by rw [he]; rfl)) hk
  | @repeated span e he hk ha =>
    exact .repeated ((Expr.ident?_rename e).trans (by rw [he]; rfl)) hk ha
  | @hoisted span e i _ he hk ha hg =>
    exact .hoisted ((Expr.ident?_rename e).trans (by rw [he]; rfl)) hk ha (hg.rename hs)

end

/-! ## Bodies and files -/

/-- Rename what becomes of an item. -/
def Conversion.rename (s : String → String) : Conversion → Conversion
  | .keep item => .keep (item.rename s)
  | .replace items => .replace (items.map (Item.rename s))

/-- Rename what a step leaves.  Its events spell no identifier. -/
def Step.rename (s : String → String) (step : Step) : Step :=
  ⟨step.conversion.rename s, step.events, step.names.rename s⟩

theorem Conversion.items_rename (s : String → String) (c : Conversion) :
    (c.rename s).items = c.items.map (Item.rename s) := by
  cases c <;> rfl

theorem Conversion.isReplacement_rename (s : String → String) (c : Conversion) :
    (c.rename s).isReplacement = c.isReplacement := by
  cases c <;> rfl

section
variable {s : String → String} (hs : KeepsReserved s)
include hs

theorem Item.convert_rename (mode : Mode) (g : FreshNames) (item : Item) :
    (item.rename s).convert mode (g.rename s) = (item.convert mode g).rename s := by
  rcases item.convert_cases_of_form mode g with ⟨hc, h⟩ | ⟨-, e, items, g', h, hconv⟩
  · rcases (item.rename s).convert_cases_of_form mode (g.rename s) with ⟨-, h'⟩ | ⟨hc', -⟩
    · rw [h, h']; rfl
    · rw [isConvertible_rename hs, hc] at hc'; cases hc'
  · rw [h, (hconv.rename hs).convert_eq]; rfl

theorem Item.convertAll_rename (mode : Mode) :
    ∀ (body : List Item) (g : FreshNames),
      convertAll mode (g.rename s) (body.map (Item.rename s)) =
        (convertAll mode g body).map (Step.rename s)
  | [], _ => rfl
  | item :: body, g => by
    have hstep := item.convert_rename hs mode g
    have hnames : (item.convert mode g |>.rename s).names =
        (item.convert mode g).names.rename s := rfl
    rw [List.map_cons, convertAll, convertAll, hstep, hnames, convertAll_rename mode body,
      List.map_cons]

theorem SourceFile.steps_rename (f : SourceFile) (options : Options) :
    (f.rename s).steps options = (f.steps options).map (Step.rename s) := by
  rw [SourceFile.steps, SourceFile.steps, ← Item.convertAll_rename hs, ← FreshNames.ofModule_rename]
  rfl

theorem SourceFile.convert_rename (f : SourceFile) (options : Options) :
    (f.rename s).convert options =
      ⟨(f.convert options).result.rename s, (f.convert options).events⟩ := by
  have hbody : ((f.steps options).map (Step.rename s)).flatMap (fun step => step.conversion.items) =
      ((f.steps options).flatMap fun step => step.conversion.items).map (Item.rename s) := by
    simp only [List.flatMap_map, List.map_flatMap, Step.rename, Conversion.items_rename]
  have hevents : ((f.steps options).map (Step.rename s)).flatMap Step.events =
      (f.steps options).flatMap Step.events := List.flatMap_map ..
  have hany : ((f.steps options).map (Step.rename s)).any
        (fun step => step.conversion.isReplacement) =
      (f.steps options).any fun step => step.conversion.isReplacement := by
    simp only [List.any_map, Function.comp_def, Step.rename, Conversion.isReplacement_rename]
  simp only [SourceFile.convert, SourceFile.steps_rename hs, hbody, hevents, hany]
  rfl

theorem Compilation.apply_of_renamed {c : Compilation} (hc : c.oracle = Oracle.syntactic)
    (options : Options) (f : SourceFile) :
    c.apply options (f.rename s) =
      ⟨(c.apply options f).result.map (SourceFile.rename s), (c.apply options f).events⟩ := by
  have hname : (f.rename s).name = f.name := rfl
  unfold apply
  rw [hc, Oracle.surface_rename hs, hname, SourceFile.convert_rename hs]
  split_ifs with hr
  · rfl
  · rcases Oracle.syntactic.surface f with _ | surface
    · rfl
    · dsimp only
      split_ifs <;> rfl

/-- **Transformations do not depend on how identifiers are spelled.**  A file
    whose identifiers are renamed, at every depth of its tree, is refused as the
    file is, or else comes back as the file does but for the renaming, with the
    same events. -/
theorem Compilation.apply_rename {c : Compilation} (hc : c.oracle = Oracle.syntactic)
    (options : Options) (f : SourceFile) :
    (∀ g : SourceFile, (g.rename s).name = g.name ∧
      (g.rename s).module.toTree = g.module.toTree.rename s) ∧
    (c.apply options (f.rename s)).result =
      (c.apply options f).result.map (SourceFile.rename s) ∧
    (c.apply options (f.rename s)).events = (c.apply options f).events := by
  rw [apply_of_renamed hs hc]
  exact ⟨fun g => ⟨rfl, g.module.toTree_rename s⟩, rfl, rfl⟩

end

/-- `a; default_1; export default class {}` -/
def SourceFile.classBesideNames : SourceFile where
  name := "a.ts"
  module := ⟨⟨1, 39⟩, none, [
    .statement (.node "ExpressionStatement" [("span", .span ⟨1, 3⟩),
      ("expression", (Ident.mk ⟨1, 2⟩ 0 "a" false).toTree)]),
    .statement (.node "ExpressionStatement" [("span", .span ⟨4, 14⟩),
      ("expression", (Ident.mk ⟨4, 13⟩ 0 "default_1" false).toTree)]),
    .defaultDefinition ⟨15, 38⟩ none ⟨.ofClass, ⟨30, 38⟩, [("body", .list [])]⟩]⟩

/-- Candidates for fresh names start with a `d`. -/
theorem FreshNames.head?_spelling (k : Nat) : (spelling k).toList.head? = some 'd' := by
  rw [spelling, String.toList_append]; rfl

/-- A class without a name gets the same one, however another name is spelled. -/
theorem Compilation.apply_rename_beside :
    let c : Compilation := ⟨Roots.ofList ["./a.ts"], Oracle.syntactic⟩
    let s := fun x => if x = "a" then "b" else x
    let f := SourceFile.classBesideNames
    KeepsReserved s ∧ (f.rename s).module.identifiers = ["b", "default_1"] ∧
    ∃ g, (c.apply {} f).result = .ok g ∧
      g.module.identifiers = ["a", "default_1", "default_2", "default_2"] ∧
      (c.apply {} (f.rename s)).result = .ok (g.rename s) := by
  intro c s f
  have hs : KeepsReserved s := by
    refine ⟨fun x => ?_, fun k _ x => ?_⟩
    · by_cases hx : x = "a"
      · subst hx; decide
      · simp only [s, if_neg hx]
    · have hne : ∀ y, y.toList.head? ≠ some 'd' → y ≠ FreshNames.spelling k := fun y hy h =>
        hy (h ▸ FreshNames.head?_spelling k)
      by_cases hx : x = "a"
      · subst hx
        exact iff_of_false (hne "b" (by decide)) (hne "a" (by decide))
      · simp only [s, if_neg hx]
  have hok : (c.apply {} f).result = .ok (f.convert {}).result := rfl
  have hrename := (Compilation.apply_rename hs (c := c) rfl {} f).2.1
  rw [hok] at hrename
  exact ⟨hs, by decide, _, hok, by decide, hrename⟩

end SoleExport
