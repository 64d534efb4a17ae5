/-
  The log of a conversion.

  A rule that converts an item leaves one trace of it in the log, which says which
  rule it was and how it applied (`Item.trace?`); an item that is kept leaves
  none.  A file in which nothing is converted, although its oracle reported a
  default export, leaves a warning instead.

  * `Converted.trace?_eq`, `Item.convert_tells`: the trace of one item;
  * `Item.convertAll_tells`, `Item.convertAll_events`: the traces of a body, in
    order;
  * `Compilation.apply_events`: hence the log of a file tells just what was
    converted, and warns just if the file comes back as it was.
-/
import SoleExport.Proofs.Frame

namespace SoleExport

/-! ## Traces -/

/-- The trace that the conversion of an item leaves, if a rule applies to it. -/
def Item.trace? (mode : Mode) : Item → Option Event
  | .exportList l =>
    if l.source.isNone && l.hasDefaultRename then
      some (.listConverted (decide (1 < l.specifiers.length)))
    else none
  | .defaultDefinition _ _ _ => some (.definitionConverted mode.ambient)
  | .defaultExpr _ e =>
    if e.ident?.isSome then some (.identConverted mode.options.keepDefault)
    else some (.exprConverted mode.options.keepDefault)
  | _ => none

/-- What a step tells about its item: nothing if the item was kept, and its trace if
    it was replaced. -/
inductive Step.Tells (mode : Mode) (item : Item) : Step → Prop
  | kept {g} : item.trace? mode = none → Tells mode item ⟨.keep item, [], g⟩
  | replaced {items e g} : item.trace? mode = some e → e.level = .trace →
      Tells mode item ⟨.replace items, [e], g⟩

section
variable {mode : Mode}

theorem Item.trace?_isSome (mode : Mode) (item : Item) :
    (item.trace? mode).isSome = item.isConvertible := by
  cases item with
  | exportList l =>
    rw [trace?, isConvertible]
    split_ifs with h
    · exact h.symm
    · exact (Bool.eq_false_of_not_eq_true h).symm
  | defaultExpr s e =>
    rw [trace?]
    split_ifs <;> rfl
  | _ => rfl

theorem Item.trace?_level {item : Item} {e : Event} (h : item.trace? mode = some e) :
    e.level = .trace := by
  cases item with
  | exportList l =>
    rw [trace?] at h
    split_ifs at h
    cases h
    rfl
  | defaultDefinition => cases h; rfl
  | defaultExpr s e =>
    rw [trace?] at h
    split_ifs at h <;> cases h <;> rfl
  | _ => cases h

/-- An entry has others beside it just if it is not the only one. -/
theorem Specifier.others_isEmpty {ss others : List Specifier} {d : NamedSpecifier}
    (h : splitDefault ss = some (d, others)) : (!others.isEmpty) = decide (1 < ss.length) := by
  obtain ⟨before, after, rfl, rfl, -, -⟩ := splitDefault_eq_some h
  have hlength : (before ++ .named d :: after).length = (before ++ after).length + 1 := by
    simp [Nat.add_assoc]
  rw [hlength]
  cases before ++ after <;> simp

/-- **A rule logs what it did.** -/
theorem Converted.trace?_eq {g g' : FreshNames} {item : Item} {e : Event} {items : List Item}
    (h : Converted mode g item e items g') : item.trace? mode = some e := by
  have hc := h.isConvertible
  cases h with
  | list _ hd =>
    rw [Item.isConvertible] at hc
    rw [Item.trace?, if_pos hc, Specifier.others_isEmpty hd]
  | definition => rfl
  | ident he => rw [Item.trace?, he]; rfl
  | value he | repeated he | hoisted he => rw [Item.trace?, he]; rfl

/-! ## Items and bodies -/

theorem Item.convert_tells (mode : Mode) (g : FreshNames) (item : Item) :
    Step.Tells mode item (item.convert mode g) := by
  rcases item.convert_cases_of_form mode g with ⟨hkeep, h⟩ | ⟨-, e, items, g', h, hconv⟩
  · rw [h]
    refine .kept ?_
    rw [← Option.not_isSome_iff_eq_none, item.trace?_isSome, hkeep]
    decide
  · rw [h]
    exact .replaced hconv.trace?_eq (Item.trace?_level hconv.trace?_eq)

theorem Item.convertAll_tells (mode : Mode) :
    ∀ (body : List Item) (g : FreshNames),
      List.Forall₂ (Step.Tells mode) body (convertAll mode g body)
  | [], _ => .nil
  | item :: body, g => .cons (item.convert_tells mode g) (convertAll_tells mode body _)

theorem Step.Tells.events_eq {item : Item} {step : Step} (h : Step.Tells mode item step) :
    step.events = (item.trace? mode).toList := by
  cases h with
  | kept hn => rw [hn]; rfl
  | replaced he => rw [he]; rfl

/-- **The events of a body are the traces of its items**, in order. -/
theorem Item.convertAll_events (mode : Mode) :
    ∀ (body : List Item) (g : FreshNames),
      (convertAll mode g body).flatMap Step.events = body.filterMap (trace? mode)
  | [], _ => rfl
  | item :: body, g => by
    rw [convertAll, List.flatMap_cons, (item.convert_tells mode g).events_eq,
      convertAll_events mode body, List.filterMap_cons]
    cases item.trace? mode <;> rfl

end

/-! ## Files -/

theorem SourceFile.convert_events (f : SourceFile) (options : Options) :
    (f.convert options).events = f.module.body.filterMap (Item.trace? (f.mode options)) ++
      if Step.replaced (f.steps options) = 0 then [.nothingConverted f.name] else [] := by
  have hwarning : (f.steps options).any (fun s => s.conversion.isReplacement) =
      decide (Step.replaced (f.steps options) ≠ 0) := by
    rw [Bool.eq_iff_iff, decide_eq_true_iff, List.any_eq_true, Step.replaced,
      ← Nat.pos_iff_ne_zero, List.countP_pos_iff]
  have htraces : (f.steps options).flatMap Step.events =
      f.module.body.filterMap (Item.trace? (f.mode options)) := Item.convertAll_events _ _ _
  simp only [SourceFile.convert, htraces, hwarning, decide_eq_true_eq, ite_not]

/-- A file that is neither passed over nor refused is converted. -/
theorem Compilation.apply_of_not_passedOver {c : Compilation} {options : Options}
    {f : SourceFile} (hp : ¬ c.PassesOver f) (hr : ¬ c.Refuses options f) :
    ∃ s, c.oracle.surface f = some s ∧ c.apply options f =
      ⟨.ok (f.convert options).result, .surface f.name s :: (f.convert options).events⟩ := by
  simp only [passesOver_iff, not_forall, not_not] at hp
  obtain ⟨hroot, names, ho, hd⟩ := hp
  have hs : c.oracle.surface f = some (Surface.ofNames names) := by
    rw [Oracle.surface, ho]
    rfl
  refine ⟨_, hs, ?_⟩
  have hdefault : (Surface.ofNames names).hasDefault = true := Surface.ofNames_hasDefault.2 hd
  have hallowed : ¬ ((Surface.ofNames names).hasNamed = true ∧ options.allowNamed = false) := by
    rintro ⟨hn, ha⟩
    exact hr ⟨hroot, ⟨names, ho, hd, Surface.ofNames_hasNamed.1 hn⟩, ha⟩
  simp only [apply, hroot, hs, hdefault, Bool.not_true, Bool.false_eq_true, if_false]
  rw [if_neg (by simpa using hallowed)]

/-- **The log tells what was converted.**  The log of a file that is converted
    opens with its surface.  Then comes one trace for each item that was replaced,
    in order, which tells the rule; and at last a warning, if there was none.  The
    file comes back as it was just if there is the warning. -/
theorem Compilation.apply_events {c : Compilation} {options : Options} {f : SourceFile}
    (hp : ¬ c.PassesOver f) (hr : ¬ c.Refuses options f) :
    List.Forall₂ (Step.Tells (f.mode options)) f.module.body (f.steps options) ∧
    ∃ s g, c.oracle.surface f = some s ∧ (c.apply options f).result = .ok g ∧
      g.module.body = Step.output (f.steps options) ∧
      (c.apply options f).events = .surface f.name s ::
        (f.module.body.filterMap (Item.trace? (f.mode options)) ++
          if Step.replaced (f.steps options) = 0 then [.nothingConverted f.name] else []) ∧
      (.nothingConverted f.name ∈ (c.apply options f).events ↔
        Step.replaced (f.steps options) = 0) ∧
      (g = f ↔ .nothingConverted f.name ∈ (c.apply options f).events) := by
  obtain ⟨s, hs, happly⟩ := apply_of_not_passedOver hp hr
  have hwarned : .nothingConverted f.name ∈ (c.apply options f).events ↔
      Step.replaced (f.steps options) = 0 := by
    -- the traces are of a lower level than the warning
    have htraces : .nothingConverted f.name ∉
        f.module.body.filterMap (Item.trace? (f.mode options)) := by
      intro hmem
      obtain ⟨item, -, htrace⟩ := List.mem_filterMap.1 hmem
      cases Item.trace?_level htrace
    rw [happly, SourceFile.convert_events]
    simp only [List.mem_cons, reduceCtorEq, false_or, List.mem_append, htraces]
    split_ifs with hz <;> simp [hz]
  refine ⟨Item.convertAll_tells _ _ _, s, _, hs, congrArg Logged.result happly, rfl, ?_, hwarned,
    ?_⟩
  · rw [happly, SourceFile.convert_events]
  · rw [hwarned, SourceFile.convert_eq_self_iff, ← f.replaced_eq_zero_iff options]

/-- A function is converted beside an interface that is not; with a symbol table that
    is wrong about a script, nothing is. -/
theorem Compilation.apply_events_merged :
    let c : Compilation := ⟨Roots.ofList ["a.ts"], Oracle.syntactic⟩
    let f := SourceFile.mergedDefaults
    let wrong : Compilation := ⟨Roots.ofList ["a.ts"], fun _ => some [defaultName]⟩
    let script : SourceFile := ⟨"a.ts", ⟨⟨1, 1⟩, none, []⟩⟩
    (c.apply {} f).events = [.surface "a.ts" ⟨true, false⟩, .definitionConverted false] ∧
    (∃ g, (c.apply {} f).result = .ok g ∧ g ≠ f) ∧
    (wrong.apply {} script).events =
      [.surface "a.ts" ⟨true, false⟩, .nothingConverted "a.ts"] ∧
    ∃ g, (wrong.apply {} script).result = .ok g ∧ g = script := by
  intro c f wrong script
  have hp : ¬ c.PassesOver f := by
    rw [passesOver_iff]
    exact fun h => h rfl _ rfl (by decide)
  have hr : ¬ c.Refuses {} f := by
    rintro ⟨-, ⟨names, hn, -, n, hmem, hne⟩, -⟩
    cases hn
    exact hne (List.eq_of_mem_replicate (n := 2) hmem)
  have hp' : ¬ wrong.PassesOver script := by
    rw [passesOver_iff]
    exact fun h => h rfl _ rfl (by decide)
  have hr' : ¬ wrong.Refuses {} script := by
    rintro ⟨-, ⟨names, hn, -, n, hmem, hne⟩, -⟩
    cases hn
    exact hne (List.mem_singleton.1 hmem)
  obtain ⟨-, s, g, hs, hg, -, hevents, -, hsame⟩ := Compilation.apply_events hp hr
  obtain ⟨-, s', g', hs', hg', -, hevents', -, hsame'⟩ := Compilation.apply_events hp' hr'
  cases hs
  cases hs'
  refine ⟨hevents.trans (by decide), ⟨g, hg, fun h => ?_⟩, hevents'.trans (by decide), g', hg', ?_⟩
  · have hmem := hsame.1 h
    rw [hevents] at hmem
    revert hmem
    decide
  · rw [hsame', hevents']
    decide

end SoleExport
