/-
  The conversion rules as a judgement.

  `Converted mode g item e items g'` says that a rule turns `item` into `items`
  and logs `e`, with the fresh names `g` before and `g'` after; it has one case
  for each way in which a rule can apply, and says in full what then happens.

  * `Item.convert_cases`: an item is kept as it is, or it is converted;
  * `Item.convertAll_run`: a body is converted by a `Run`, one step after the
    other, each with the fresh names that the one before left.

  What comes of a conversion is read off these cases, and not off the rules
  themselves.
-/
import Mathlib.Tactic.Common
import SoleExport.Transform

namespace SoleExport

/-! ## Names for targets -/

/-- The identifier that stands for a target at `span`: its own one if it has
    one, else the next fresh one. -/
inductive FreshNames.Gives (g : FreshNames) (span : Span) :
    Option Ident → Ident → FreshNames → Prop
  | own (i : Ident) : g.Gives span (some i) i g
  | fresh : g.Gives span none (Ident.generated g.next.1 span) g.next.2

theorem Target.assign_cases (t : Target) (form : AssignmentForm) (span : Span) (g : FreshNames) :
    ∃ i g', t.assign form span g = (Item.assign form span (.ident i), g') ∧
      g.Gives span t.ident? i g' := by
  unfold Target.assign
  rcases t.ident? with _ | i
  · exact ⟨_, _, rfl, .fresh⟩
  · exact ⟨i, g, rfl, .own i⟩

theorem Target.assign_of_ident {t : Target} {i : Ident} (h : t.ident? = some i)
    (form : AssignmentForm) (span : Span) (g : FreshNames) :
    t.assign form span g = (Item.assign form span (.ident i), g) := by
  simp only [Target.assign, h]

theorem FreshNames.Gives.assign {g g' : FreshNames} {t : Target} {span : Span} {i : Ident}
    (h : g.Gives span t.ident? i g') (form : AssignmentForm) :
    t.assign form span g = (Item.assign form span (.ident i), g') := by
  unfold Target.assign
  generalize t.ident? = named at h
  cases h <;> rfl

/-! ## The default entry of a list -/

theorem Specifier.defaultRename?_eq_some {s : Specifier} {d : NamedSpecifier}
    (h : s.defaultRename? = some d) :
    s = .named d ∧ ∃ i, d.exported = some (.ident i) ∧ i.name = defaultName := by
  cases s with
  | named n =>
    simp only [defaultRename?] at h
    split at h
    · next i hi =>
      split_ifs at h with hn
      cases h
      exact ⟨rfl, i, hi, hn⟩
    · cases h
  | wildcard | default => cases h

/-- The entry that is split off is the first `x as default`, and all others stay
    in their places. -/
theorem Specifier.splitDefault_eq_some {ss others : List Specifier} {d : NamedSpecifier}
    (h : splitDefault ss = some (d, others)) :
    ∃ before after, ss = before ++ .named d :: after ∧ others = before ++ after ∧
      (∀ s ∈ before, s.defaultRename? = none) ∧ Specifier.defaultRename? (.named d) = some d := by
  induction ss generalizing others with
  | nil => cases h
  | cons s ss ih =>
    simp only [splitDefault] at h
    rcases hs : s.defaultRename? with _ | d'
    · simp only [hs, Option.map_eq_some_iff, Prod.mk.injEq] at h
      obtain ⟨⟨d', others'⟩, hr, rfl, rfl⟩ := h
      obtain ⟨before, after, rfl, rfl, hb, hd⟩ := ih hr
      refine ⟨s :: before, after, rfl, rfl, fun t ht => ?_, hd⟩
      rcases List.mem_cons.1 ht with rfl | ht
      exacts [hs, hb t ht]
    · simp only [hs, Option.some.injEq, Prod.mk.injEq] at h
      obtain ⟨rfl, rfl⟩ := h
      obtain ⟨rfl, -⟩ := defaultRename?_eq_some hs
      exact ⟨[], ss, rfl, rfl, by simp, hs⟩

/-! ## The judgement -/

/-- What a conversion leaves of an export list when `others` are its entries
    other than the converted one. -/
def ExportList.remains (mode : Mode) (l : ExportList) (others : List Specifier) : List Item :=
  if mode.options.keepDefault then [.exportList l]
  else if others.isEmpty then []
  else [.exportList { l with specifiers := others }]

theorem ExportList.mem_remains {mode : Mode} {l : ExportList} {others : List Specifier} {it : Item}
    (h : it ∈ l.remains mode others) :
    it = .exportList { l with
      specifiers := if mode.options.keepDefault then l.specifiers else others } := by
  unfold remains at h
  split_ifs at h with hk ho
  · simpa [hk] using h
  · cases h
  · simpa [hk] using h

/-- The items that a conversion adds only to keep the default export. -/
def Mode.kept (mode : Mode) (item : Item) : List Item :=
  if mode.options.keepDefault then [item] else []

theorem Mode.mem_kept {mode : Mode} {item it : Item} :
    it ∈ mode.kept item ↔ mode.options.keepDefault = true ∧ it = item := by
  unfold kept
  split_ifs with hk <;> simp [hk]

/-- An item becomes other items, by one of the rules. -/
inductive Converted (mode : Mode) (g : FreshNames) :
    Item → Event → List Item → FreshNames → Prop
  /-- `export { x as default, y }` -/
  | list {l d others i g'} : l.source = none →
      Specifier.splitDefault l.specifiers = some (d, others) →
      g.Gives l.span d.orig.ident? i g' →
      Converted mode g (.exportList l) (.listConverted (!others.isEmpty))
        (l.remains mode others ++ [.exportEquals l.span (.ident i)]) g'
  /-- `export default function f() {}` -/
  | definition {s n b i g'} : g.Gives s n i g' →
      Converted mode g (.defaultDefinition s n b) (.definitionConverted mode.ambient)
        (.declaration (.definition i mode.ambient
            { b with span := Span.between s.start b.span.stop }) ::
          .exportEquals s (.ident i) :: mode.kept (.defaultExpr s (.ident i))) g'
  /-- `export default x` -/
  | ident {s e i} : e.ident? = some i →
      Converted mode g (.defaultExpr s e) (.identConverted mode.options.keepDefault)
        (mode.kept (.defaultExpr s e) ++ [.exportEquals s (.ident i)]) g
  /-- `export default e`, which is not kept -/
  | value {s e} : e.ident? = none → mode.options.keepDefault = false →
      Converted mode g (.defaultExpr s e) (.exprConverted mode.options.keepDefault)
        [.exportEquals s e] g
  /-- `export default e`, repeated in a declaration file -/
  | repeated {s e} : e.ident? = none → mode.options.keepDefault = true → mode.ambient = true →
      Converted mode g (.defaultExpr s e) (.exprConverted mode.options.keepDefault)
        [.defaultExpr s e, .exportEquals s e] g
  /-- `export default e`, bound to a constant first -/
  | hoisted {s e i g'} : e.ident? = none → mode.options.keepDefault = true →
      mode.ambient = false → g.Gives s none i g' →
      Converted mode g (.defaultExpr s e) (.exprConverted mode.options.keepDefault)
        [.constant i s e, .defaultExpr s (.ident i), .exportEquals s (.ident i)] g'

/-- What looking at an item can come to. -/
def Step.Of (mode : Mode) (g : FreshNames) (item : Item) (step : Step) : Prop :=
  step = .keep item g ∨
    ∃ e items g', step = ⟨.replace items, [e], g'⟩ ∧ Converted mode g item e items g'

theorem ExportList.convert_cases (mode : Mode) (g : FreshNames) (l : ExportList) :
    Step.Of mode g (.exportList l) (l.convert mode g) := by
  unfold ExportList.convert
  by_cases hs : l.source.isSome
  · exact Or.inl (if_pos hs)
  · rw [if_neg hs]
    rcases hd : Specifier.splitDefault l.specifiers with _ | ⟨d, others⟩
    · exact Or.inl rfl
    · obtain ⟨i, g', ha, hg⟩ := (Target.specifier d).assign_cases .equals l.span g
      refine Or.inr ⟨_, _, g', ?_, .list (by simpa using hs) hd hg⟩
      simp only [ha, Item.assign, ExportList.remains]

theorem Definition.convert_cases (mode : Mode) (g : FreshNames) (s : Span) (n : Option Ident)
    (b : Definition) : Step.Of mode g (.defaultDefinition s n b) (b.convert mode g s n) := by
  -- both assignments find the name of the declaration, so they draw no further name
  have own : ∀ (i : Ident) (d : Bool) (b' : Definition) form g',
      (Target.declaration (.definition i d b')).assign form s g' =
        (Item.assign form s (.ident i), g') :=
    fun i d b' form g' => Target.assign_of_ident rfl form s g'
  cases n with
  | none =>
    refine Or.inr ⟨_, _, _, ?_, .definition .fresh⟩
    simp only [Definition.convert, FreshNames.nextIdent, own, Item.assign, Mode.kept]
    split_ifs <;> rfl
  | some i =>
    refine Or.inr ⟨_, _, _, ?_, .definition (.own i)⟩
    simp only [Definition.convert, own, Item.assign, Mode.kept]
    split_ifs <;> rfl

theorem Expr.convert_cases (mode : Mode) (g : FreshNames) (s : Span) (e : Expr) :
    Step.Of mode g (.defaultExpr s e) (e.convert mode g s) := by
  unfold Expr.convert
  rcases he : e.ident? with _ | i
  · rcases hk : mode.options.keepDefault with _ | _
    · exact Or.inr ⟨_, _, g, rfl, by simpa [hk, Item.assign] using Converted.value he hk⟩
    · rcases ha : mode.ambient with _ | _
      · refine Or.inr ⟨_, _, _, rfl, ?_⟩
        simpa [hk, Target.assign_of_ident, Item.assign] using Converted.hoisted he hk ha .fresh
      · exact Or.inr ⟨_, _, g, rfl, by simpa [hk, Item.assign] using Converted.repeated he hk ha⟩
  · refine Or.inr ⟨_, _, g, ?_, .ident he⟩
    simp only [Target.assign_of_ident (t := .expr e) he, Item.assign, Mode.kept]

/-- **The rules**: an item is kept as it is, without a trace, or it is
    converted. -/
theorem Item.convert_cases (mode : Mode) (g : FreshNames) (item : Item) :
    Step.Of mode g item (item.convert mode g) := by
  cases item with
  | exportList l => exact l.convert_cases mode g
  | defaultDefinition s n b => exact b.convert_cases mode g s n
  | defaultExpr s e => exact e.convert_cases mode g s
  | _ => exact Or.inl rfl

/-- What looking at an item that is replaced comes to. -/
theorem Item.converted_of_replace {mode : Mode} {g : FreshNames} {item : Item}
    {items : List Item} (h : (item.convert mode g).conversion = .replace items) :
    ∃ e g', item.convert mode g = ⟨.replace items, [e], g'⟩ ∧
      Converted mode g item e items g' := by
  rcases item.convert_cases mode g with hk | ⟨e, items', g', hs, hc⟩
  · rw [hk] at h; simp [Step.keep] at h
  · rw [hs] at h
    simp only [Conversion.replace.injEq] at h
    subst h
    exact ⟨e, g', hs, hc⟩

/-- The judgement is that of the rules: what it says of an item is what looking at
    the item comes to. -/
theorem Converted.convert_eq {mode : Mode} {g g' : FreshNames} {item : Item} {e : Event}
    {items : List Item} (h : Converted mode g item e items g') :
    item.convert mode g = ⟨.replace items, [e], g'⟩ := by
  cases h with
  | @list l d others i _ hs hd hg =>
    have ha := FreshNames.Gives.assign (t := .specifier d) hg .equals
    simp only [Item.convert, ExportList.convert, hs, Option.isSome_none, Bool.false_eq_true,
      if_false, hd, ha, Item.assign, ExportList.remains]
  | @definition s n b i _ hg =>
    cases hg <;> cases hk : mode.options.keepDefault <;>
      simp [Item.convert, Definition.convert, FreshNames.nextIdent, hk, Mode.kept, Item.assign,
        Target.assign, Target.ident?, Declaration.definitionName?]
  | @ident s e i he =>
    simp only [Item.convert, Expr.convert, he, Target.assign_of_ident (t := .expr e) he,
      Item.assign, Mode.kept]
  | value he hk => simp [Item.convert, Expr.convert, he, hk, Item.assign]
  | repeated he hk ha => simp [Item.convert, Expr.convert, he, hk, ha, Item.assign]
  | hoisted he hk ha hg =>
    cases hg
    simp [Item.convert, Expr.convert, he, hk, ha, FreshNames.nextIdent, Item.assign,
      Target.assign, Target.ident?]

/-! ## Runs -/

/-- The steps of a body, each with the fresh names that the step before it left. -/
inductive Run (mode : Mode) : FreshNames → List Item → List Step → Prop
  | nil {g} : Run mode g [] []
  | cons {g item items step steps} : Step.Of mode g item step →
      Run mode step.names items steps → Run mode g (item :: items) (step :: steps)

theorem Item.convertAll_run (mode : Mode) :
    ∀ (items : List Item) (g : FreshNames), Run mode g items (convertAll mode g items)
  | [], _ => .nil
  | item :: items, g => .cons (item.convert_cases mode g) (convertAll_run mode items _)

theorem SourceFile.steps_run (f : SourceFile) (options : Options) :
    Run (f.mode options) (FreshNames.ofModule f.module) f.module.body (f.steps options) :=
  Item.convertAll_run _ _ _

/-- Each item of a body has its step. -/
theorem Run.getElem?_cases {mode : Mode} {g : FreshNames} {items : List Item} {steps : List Step}
    (h : Run mode g items steps) (j : Nat) : (items[j]? = none ∧ steps[j]? = none) ∨
      ∃ item step g', items[j]? = some item ∧ steps[j]? = some step ∧ Step.Of mode g' item step := by
  induction h generalizing j with
  | nil => exact Or.inl ⟨rfl, rfl⟩
  | @cons g item _ step _ hs _ ih =>
    cases j with
    | zero => exact Or.inr ⟨item, step, g, rfl, rfl, hs⟩
    | succ j => exact ih j

/-- The body that some steps leave. -/
def Step.output (steps : List Step) : List Item := steps.flatMap fun s => s.conversion.items

/-- How many of some steps replaced their item. -/
def Step.replaced (steps : List Step) : Nat :=
  steps.countP fun s => s.conversion.isReplacement

@[simp] theorem Step.output_cons (s : Step) (steps : List Step) :
    output (s :: steps) = s.conversion.items ++ output steps := rfl

theorem Step.mem_output {steps : List Step} {it : Item} :
    it ∈ output steps ↔ ∃ (j : Nat) (s : Step), steps[j]? = some s ∧ it ∈ s.conversion.items := by
  rw [output, List.mem_flatMap]
  constructor
  · rintro ⟨s, hs, hit⟩
    obtain ⟨j, hj⟩ := List.mem_iff_getElem?.1 hs
    exact ⟨j, s, hj, hit⟩
  · rintro ⟨j, s, hj, hit⟩
    exact ⟨s, List.mem_of_getElem? hj, hit⟩

theorem Step.replaced_cons (s : Step) (steps : List Step) :
    replaced (s :: steps) = (if s.conversion.isReplacement then 1 else 0) + replaced steps := by
  simp only [replaced, List.countP_cons, Nat.add_comm]

@[simp] theorem SourceFile.convert_body (f : SourceFile) (options : Options) :
    (f.convert options).result.module.body = Step.output (f.steps options) := rfl

/-- Where nothing is replaced, the body stays as it is. -/
theorem Run.output_eq_of_replaced_eq_zero {mode : Mode} {g : FreshNames} {items : List Item}
    {steps : List Step} (h : Run mode g items steps) (hr : Step.replaced steps = 0) :
    Step.output steps = items := by
  induction h with
  | nil => rfl
  | cons hs _ ih =>
    rw [Step.replaced_cons] at hr
    rcases hs with rfl | ⟨e, is, g', rfl, -⟩
    · rw [Step.output_cons, ih (by omega)]; rfl
    · simp [Conversion.isReplacement] at hr

theorem SourceFile.convert_eq_self {f : SourceFile} {options : Options}
    (h : Step.replaced (f.steps options) = 0) : (f.convert options).result = f := by
  have hb := (f.steps_run options).output_eq_of_replaced_eq_zero h
  rw [← SourceFile.convert_body] at hb
  simp only [SourceFile.convert] at hb ⊢
  rw [hb]

end SoleExport
