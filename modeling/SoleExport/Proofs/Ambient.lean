/-
  Declaration files.

  A module may be converted twice, once in a file of its own and once in a
  declaration file.  The rules ask which of the two they look at, and answer
  with a flag or, where an expression is kept, without a constant.

  * `SourceFile.convert_exportedNames_eq`: neither shows in what is exported,
    which is a function of the items and of whether the default is kept;
  * `Item.convertAll_withDeclare`: where it is not kept, the `declare` flags of
    the converted functions and classes are all that the kind of file decides;
  * `Compilation.apply_source_and_declaration`: so that a module and its
    declaration file are refused or converted alike.
-/
import SoleExport.Proofs.DefaultForms

namespace SoleExport

/-! ## Exported names -/

/-- The names that an item exports after its conversion, in order. -/
def Item.namesAfter (keep : Bool) : Item → List String
  | .exportList l =>
    match l.source, Specifier.splitDefault l.specifiers with
    | none, some (_, others) =>
      (if keep then l.specifiers else others).map Specifier.exportedName ++ [equalsName]
    | _, _ => l.specifiers.map Specifier.exportedName
  | .defaultDefinition _ _ _ => equalsName :: if keep then [defaultName] else []
  | .defaultExpr _ _ => (if keep then [defaultName] else []) ++ [equalsName]
  | item => item.exportedNames

theorem Mode.kept_exportedNames (mode : Mode) (item : Item) :
    (mode.kept item).flatMap Item.exportedNames =
      if mode.options.keepDefault then item.exportedNames else [] := by
  unfold kept
  split_ifs
  · exact List.append_nil _
  · rfl

theorem Converted.exportedNames_eq {mode : Mode} {g g' : FreshNames} {item : Item} {e : Event}
    {items : List Item} (h : Converted mode g item e items g') :
    items.flatMap Item.exportedNames = item.namesAfter mode.options.keepDefault := by
  cases h with
  | list hs hd =>
    rw [List.flatMap_append, ExportList.remains_exportedNames, Item.namesAfter, hs, hd]
    rfl
  | definition =>
    rw [List.flatMap_cons, List.flatMap_cons, Mode.kept_exportedNames]
    rfl
  | ident =>
    rw [List.flatMap_append, Mode.kept_exportedNames]
    rfl
  | value _ hk | repeated _ hk | hoisted _ hk =>
    rw [Item.namesAfter, hk]
    rfl

/-- An item that is not converted exports what it did. -/
theorem Item.namesAfter_of_not_convertible {item : Item} (h : item.isConvertible = false)
    (keep : Bool) : item.namesAfter keep = item.exportedNames := by
  cases item with
  | exportList l =>
    rw [namesAfter, exportedNames]
    split
    · next hs hd =>
      rw [isConvertible, hs, ExportList.hasDefaultRename, ← Specifier.splitDefault_isSome, hd] at h
      cases h
    · rfl
  | defaultDefinition | defaultExpr => cases h
  | _ => rfl

theorem Item.convert_exportedNames_eq (mode : Mode) (g : FreshNames) (item : Item) :
    (item.convert mode g).conversion.items.flatMap exportedNames =
      item.namesAfter mode.options.keepDefault := by
  rcases item.convert_cases_of_form mode g with ⟨hkeep, h⟩ | ⟨-, e, items, g', h, hconv⟩
  · rw [h, namesAfter_of_not_convertible hkeep]
    exact List.append_nil _
  · rw [h]
    exact hconv.exportedNames_eq

theorem Item.convertAll_exportedNames_eq (mode : Mode) :
    ∀ (body : List Item) (g : FreshNames),
      (Step.output (convertAll mode g body)).flatMap exportedNames =
        body.flatMap (namesAfter mode.options.keepDefault)
  | [], _ => rfl
  | item :: body, g => by
    rw [convertAll, Step.output_cons, List.flatMap_append, item.convert_exportedNames_eq,
      convertAll_exportedNames_eq mode body, List.flatMap_cons]

/-- **The exported names after a conversion**, in order.  Neither the name of the
    file nor the fresh names have a part in them. -/
theorem SourceFile.convert_exportedNames_eq (f : SourceFile) (options : Options) :
    (f.convert options).result.module.exportedNames =
      if f.module.body.any Item.isModuleItem then
        some (f.module.body.flatMap (Item.namesAfter options.keepDefault))
      else none := by
  rw [Module.exportedNames, SourceFile.convert_body, (f.steps_run options).any_isModuleItem,
    SourceFile.steps, Item.convertAll_exportedNames_eq]
  rfl

/-! ## The `declare` flag -/

/-- The item with a `declare` flag, if it is a function or a class. -/
def Item.withDeclare (declare : Bool) : Item → Item
  | .declaration (.definition i _ body) => .declaration (.definition i declare body)
  | item => item

/-- What becomes of an item, with a `declare` flag for each function and class
    that was converted; what was kept has the flag it came with. -/
def Conversion.withDeclare (declare : Bool) : Conversion → Conversion
  | .keep item => .keep item
  | .replace items => .replace (items.map (Item.withDeclare declare))

/-- An event with a `declare` flag, if it is about a function or a class. -/
def Event.withDeclare (declare : Bool) : Event → Event
  | .definitionConverted _ => .definitionConverted declare
  | event => event

/-- A step with a `declare` flag for each function and class that was converted. -/
def Step.withDeclare (declare : Bool) (s : Step) : Step :=
  ⟨s.conversion.withDeclare declare, s.events.map (Event.withDeclare declare), s.names⟩

section
variable {options : Options}

theorem ExportList.convert_withDeclare (a b : Bool) (g : FreshNames) (l : ExportList) :
    l.convert ⟨options, b⟩ g = (l.convert ⟨options, a⟩ g).withDeclare b := by
  unfold ExportList.convert
  rcases l.source with _ | t
  · rcases Specifier.splitDefault l.specifiers with _ | ⟨d, others⟩
    · rfl
    · obtain ⟨i, g', ha, -⟩ := (Target.specifier d).assign_cases .equals l.span g
      simp only [ha]
      split_ifs <;> rfl
  · rfl

theorem Definition.convert_withDeclare (hk : options.keepDefault = false) (a b : Bool)
    (g : FreshNames) (s : Span) (n : Option Ident) (d : Definition) :
    d.convert ⟨options, b⟩ g s n = (d.convert ⟨options, a⟩ g s n).withDeclare b := by
  unfold Definition.convert
  simp only [hk]
  cases n <;> rfl

theorem Expr.convert_withDeclare (hk : options.keepDefault = false) (a b : Bool)
    (g : FreshNames) (s : Span) (e : Expr) :
    e.convert ⟨options, b⟩ g s = (e.convert ⟨options, a⟩ g s).withDeclare b := by
  unfold Expr.convert
  rcases he : e.ident? with _ | i
  · simp only [hk]; rfl
  · simp only [hk, Target.assign_of_ident (t := .expr e) he]; rfl

/-- **The kind of file shows in the flag alone**, where the default is not kept. -/
theorem Item.convert_withDeclare (hk : options.keepDefault = false) (a b : Bool) (g : FreshNames)
    (item : Item) :
    item.convert ⟨options, b⟩ g = (item.convert ⟨options, a⟩ g).withDeclare b := by
  cases item with
  | exportList l => exact l.convert_withDeclare a b g
  | defaultDefinition s n d => exact d.convert_withDeclare hk a b g s n
  | defaultExpr s e => exact e.convert_withDeclare hk a b g s
  | _ => rfl

theorem Item.convertAll_withDeclare (hk : options.keepDefault = false) (a b : Bool) :
    ∀ (body : List Item) (g : FreshNames), convertAll ⟨options, b⟩ g body =
      (convertAll ⟨options, a⟩ g body).map (Step.withDeclare b)
  | [], _ => rfl
  | item :: body, g => by
    -- both steps leave the same fresh names, so that the rest starts alike
    have hstep := item.convert_withDeclare hk a b g
    have hnames : (item.convert ⟨options, b⟩ g).names = (item.convert ⟨options, a⟩ g).names := by
      rw [hstep]; rfl
    simp only [convertAll, List.map_cons, hnames, ← hstep,
      convertAll_withDeclare hk a b body (item.convert ⟨options, a⟩ g).names]

end

theorem SourceFile.steps_withDeclare {options : Options} (hk : options.keepDefault = false)
    (name name' : String) (m : Module) :
    SourceFile.steps ⟨name', m⟩ options =
      (SourceFile.steps ⟨name, m⟩ options).map (Step.withDeclare (isDeclarationName name')) :=
  Item.convertAll_withDeclare hk (isDeclarationName name) (isDeclarationName name') m.body _

/-- With the flags cleared no kind of file can be told from another. -/
theorem SourceFile.steps_clear_declare {options : Options} (hk : options.keepDefault = false)
    (name name' : String) (m : Module) :
    (SourceFile.steps ⟨name, m⟩ options).map (Step.withDeclare false) =
      (SourceFile.steps ⟨name', m⟩ options).map (Step.withDeclare false) :=
  (Item.convertAll_withDeclare hk (isDeclarationName name) false m.body _).symm.trans
    (Item.convertAll_withDeclare hk (isDeclarationName name') false m.body _)

/-! ## A module in two files -/

/-- **A file and its declaration file are refused or converted alike.**  Once
    converted they export the same names.  If the default is not kept, they have
    the same body once the `declare` flags of the functions and classes that were
    converted are cleared: these are clear in the file, and set in the declaration
    file. -/
theorem Compilation.apply_source_and_declaration {c : Compilation}
    (hc : c.oracle = Oracle.syntactic) {source declaration : String}
    (hs : c.roots.contains source = true) (hd : c.roots.contains declaration = true)
    (hsource : isDeclarationName source = false)
    (hdeclaration : isDeclarationName declaration = true) (options : Options) (m : Module) :
    ((c.apply options ⟨source, m⟩).result = .error (.namedExports source) ∧
      (c.apply options ⟨declaration, m⟩).result = .error (.namedExports declaration)) ∨
    ∃ g g', (c.apply options ⟨source, m⟩).result = .ok g ∧
      (c.apply options ⟨declaration, m⟩).result = .ok g' ∧
      g.module.exportedNames = g'.module.exportedNames ∧
      (options.keepDefault = false →
        let steps := SourceFile.steps ⟨source, m⟩ options
        let steps' := SourceFile.steps ⟨declaration, m⟩ options
        g.module.body = Step.output steps ∧ g'.module.body = Step.output steps' ∧
        Step.output (steps.map (Step.withDeclare false)) =
          Step.output (steps'.map (Step.withDeclare false)) ∧
        steps = steps'.map (Step.withDeclare false) ∧
        steps' = steps.map (Step.withDeclare true)) := by
  rcases c.apply_syntactic hc (f := ⟨source, m⟩) hs options with ⟨hm, ha, he⟩ | ⟨hm, hok⟩ <;>
    rcases c.apply_syntactic hc (f := ⟨declaration, m⟩) hd options with
      ⟨hm', ha', he'⟩ | ⟨hm', hok'⟩
  · exact Or.inl ⟨he, he'⟩
  · exact absurd ⟨hm, ha⟩ hm'
  · exact absurd ⟨hm', ha'⟩ hm
  · refine Or.inr ⟨_, _, hok, hok', ?_, fun hk => ?_⟩
    · rw [SourceFile.convert_exportedNames_eq, SourceFile.convert_exportedNames_eq]
    · have hclear := SourceFile.steps_withDeclare hk declaration source m
      have hset := SourceFile.steps_withDeclare hk source declaration m
      rw [hsource] at hclear
      rw [hdeclaration] at hset
      refine ⟨rfl, rfl, ?_, hclear, hset⟩
      rw [SourceFile.steps_clear_declare hk source declaration m]

/-- A class without a name gets the same name in both files. -/
theorem Compilation.apply_source_and_declaration_anonymous :
    let c : Compilation := ⟨Roots.ofList ["a.ts", "a.d.ts"], Oracle.syntactic⟩
    let m := SourceFile.anonymousClass.module
    let steps := SourceFile.steps ⟨"a.ts", m⟩ ⟨false, false⟩
    let steps' := SourceFile.steps ⟨"a.d.ts", m⟩ ⟨false, false⟩
    c.roots.contains "a.ts" = true ∧ c.roots.contains "a.d.ts" = true ∧
    isDeclarationName "a.ts" = false ∧ isDeclarationName "a.d.ts" = true ∧
    ∃ g g', (c.apply ⟨false, false⟩ ⟨"a.ts", m⟩).result = .ok g ∧
      (c.apply ⟨false, false⟩ ⟨"a.d.ts", m⟩).result = .ok g' ∧
      g.module.exportedNames = g'.module.exportedNames ∧
      g.module.body = Step.output steps ∧ g'.module.body = Step.output steps' ∧
      Step.output (steps.map (Step.withDeclare false)) =
        Step.output (steps'.map (Step.withDeclare false)) ∧
      steps = steps'.map (Step.withDeclare false) ∧
      steps' = steps.map (Step.withDeclare true) := by
  intro c m steps steps'
  have hs : c.roots.contains "a.ts" = true := by decide
  have hd : c.roots.contains "a.d.ts" = true := by decide
  have hsource : isDeclarationName "a.ts" = false := by decide
  have hdeclaration : isDeclarationName "a.d.ts" = true := by decide
  refine ⟨hs, hd, hsource, hdeclaration, ?_⟩
  rcases Compilation.apply_source_and_declaration (c := c) rfl hs hd hsource hdeclaration
    ⟨false, false⟩ m with ⟨he, -⟩ | ⟨g, g', hg, hg', hnames, hbody⟩
  · have hok : (c.apply ⟨false, false⟩ ⟨"a.ts", m⟩).result =
        .ok (SourceFile.convert ⟨"a.ts", m⟩ ⟨false, false⟩).result := rfl
    rw [hok] at he; cases he
  · exact ⟨g, g', hg, hg', hnames, hbody rfl⟩

end SoleExport
