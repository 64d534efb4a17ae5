/-
  Fresh names capture nothing.

  A conversion draws a fresh name for a function or a class without a name, for
  an expression that is bound to a constant, and for a string literal in the
  place of a local name.  `Item.generatedNames` reads these names off the items
  that a conversion leaves.

  * `Run.generatedNames_fresh`: over a run no name is drawn twice, and none that
    was taken;
  * `Run.taken_after`: these are all the names that a run draws;
  * `Step.Of.identifiers`: a step brings in no other names;
  * `SourceFile.generatedNames_capture_nothing`: hence a name that is drawn for
    an item is used in the items that replace it, as the name of one
    declaration, and nowhere else in the module.
-/
import SoleExport.Proofs.Designation
import SoleExport.Proofs.FreshNames
import SoleExport.Proofs.Identifiers

namespace SoleExport

/-! ## Names in a replacement -/

/-- The names that an item declares by a declaration. -/
def Item.declaredNames : Item → List String
  | .declaration d => d.names
  | _ => []

/-- The variable that `export =` designates. -/
def Item.equalsName? : Item → Option String
  | .exportEquals _ (.ident i) => some i.name
  | _ => none

/-- The names that `items` declare in the place of an item that has none: a
    function or class without a name, or an expression. -/
def Item.namesDeclaredFor (item : Item) (items : List Item) : List String :=
  match item with
  | .defaultDefinition _ none _ | .defaultExpr _ _ => items.flatMap Item.declaredNames
  | _ => []

/-- The names that `items` export in the place of a string literal. -/
def Item.namesForLiteral (item : Item) (items : List Item) : List String :=
  if item.hasLiteralDefault then items.filterMap Item.equalsName? else []

/-- The names that are generated for an item that becomes `items`. -/
def Item.generatedNames (item : Item) (items : List Item) : List String :=
  item.namesDeclaredFor items ++ item.namesForLiteral items

/-- The names that are generated for a body. -/
def Step.generatedNames (body : List Item) (steps : List Step) : List String :=
  (body.zip steps).flatMap fun p => p.1.generatedNames p.2.conversion.items

theorem Step.generatedNames_cons (item : Item) (body : List Item) (s : Step)
    (steps : List Step) :
    generatedNames (item :: body) (s :: steps) =
      item.generatedNames s.conversion.items ++ generatedNames body steps := rfl

/-- The fresh names that are left after some steps. -/
def Step.namesAfter (g : FreshNames) (steps : List Step) : FreshNames :=
  (steps.getLast?.map Step.names).getD g

theorem Step.namesAfter_cons (g : FreshNames) (s : Step) (steps : List Step) :
    namesAfter g (s :: steps) = namesAfter s.names steps := by
  cases steps with
  | nil => rfl
  | cons t steps => rw [namesAfter, namesAfter, List.getLast?_cons_cons, List.getLast?_cons]; rfl

/-! ## Names are drawn from the fresh ones -/

theorem ExportList.hasLiteralDefault_of_split {l : ExportList} {d : NamedSpecifier}
    {others : List Specifier} (h : Specifier.splitDefault l.specifiers = some (d, others)) :
    (Item.exportList l).hasLiteralDefault = d.orig.ident?.isNone := by
  rw [Item.hasLiteralDefault, chosen?_of_split h, Option.any_some]

/-- What a step draws: nothing, or the next fresh name. -/
def FreshNames.Draws (g : FreshNames) (names : List String) (g' : FreshNames) : Prop :=
  (names = [] ∧ g' = g) ∨ (names = [g.next.1] ∧ g' = g.next.2)

theorem FreshNames.Draws.eq_of_mem {g g' : FreshNames} {names : List String} {x : String}
    (h : g.Draws names g') (hx : x ∈ names) : x = g.next.1 := by
  rcases h with ⟨rfl, -⟩ | ⟨rfl, -⟩
  · cases hx
  · exact List.mem_singleton.1 hx

/-- **A conversion uses each name that it draws.** -/
theorem Converted.draws {mode : Mode} {g g' : FreshNames} {item : Item} {e : Event}
    {items : List Item} (h : Converted mode g item e items g') :
    g.Draws (item.generatedNames items) g' := by
  cases h with
  | @list l d others i _ hs hd hg =>
    simp only [Item.generatedNames, Item.namesDeclaredFor, Item.namesForLiteral, List.nil_append,
      ExportList.hasLiteralDefault_of_split hd]
    generalize d.orig.ident? = o at hg
    cases hg with
    | own => exact Or.inl ⟨rfl, rfl⟩
    | fresh =>
      refine Or.inr ⟨?_, rfl⟩
      rw [Option.isNone_none, if_pos rfl, List.filterMap_append, l.filterMap_remains fun _ => rfl]
      rfl
  | definition hg =>
    cases hg with
    | own => exact Or.inl ⟨rfl, rfl⟩
    | fresh =>
      refine Or.inr ⟨?_, rfl⟩
      unfold Mode.kept
      split_ifs <;> rfl
  | ident he =>
    refine Or.inl ⟨?_, rfl⟩
    unfold Mode.kept
    split_ifs <;> rfl
  | value | repeated => exact Or.inl ⟨rfl, rfl⟩
  | hoisted he hk ha hg =>
    cases hg with
    | fresh => exact Or.inr ⟨rfl, rfl⟩

theorem Step.Of.draws {mode : Mode} {g : FreshNames} {item : Item} {s : Step}
    (h : s.Of mode g item) : g.Draws (item.generatedNames s.conversion.items) s.names := by
  rcases h with rfl | ⟨e, items, g', rfl, hc⟩
  · refine Or.inl ⟨?_, rfl⟩
    simp only [Step.keep, Conversion.items, Item.generatedNames, Item.namesForLiteral]
    cases item with
    | defaultDefinition s n d => cases n <;> rfl
    | exportList l => simp [Item.namesDeclaredFor, Item.equalsName?]
    | _ => rfl
  · exact hc.draws

section
variable {mode : Mode} {g : FreshNames} {body : List Item} {steps : List Step}

/-- **Over a run the names that are drawn are new**: none of them was taken, and
    none is drawn twice. -/
theorem Run.generatedNames_fresh (h : Run mode g body steps) :
    (∀ x ∈ Step.generatedNames body steps, x ∉ g.taken) ∧
      (Step.generatedNames body steps).Nodup := by
  induction h with
  | nil => exact ⟨by simp [Step.generatedNames], List.nodup_nil⟩
  | @cons g item body step steps hs _ ih =>
    obtain ⟨hnew, hnodup⟩ := ih
    rw [Step.generatedNames_cons]
    rcases hs.draws with ⟨hn, hg⟩ | ⟨hn, hg⟩
    · rw [hg] at hnew
      simpa only [hn, List.nil_append] using ⟨hnew, hnodup⟩
    · -- the name that is drawn is taken for the rest of the run
      rw [hg, FreshNames.next_taken] at hnew
      rw [hn, List.singleton_append]
      refine ⟨fun x hx => ?_, List.nodup_cons.2 ⟨fun hx => ?_, hnodup⟩⟩
      · rcases List.mem_cons.1 hx with rfl | hx
        · exact g.next_notMem
        · exact fun ht => hnew x hx (List.mem_cons_of_mem _ ht)
      · exact hnew _ hx (List.mem_cons_self ..)

/-- The names that are taken after a run are those from before it and those
    that it drew. -/
theorem Run.taken_after (h : Run mode g body steps) :
    (Step.namesAfter g steps).taken = (Step.generatedNames body steps).reverse ++ g.taken := by
  induction h with
  | nil => rfl
  | @cons g item body step steps hs _ ih =>
    rw [Step.generatedNames_cons, Step.namesAfter_cons, ih, List.reverse_append, List.append_assoc]
    rcases hs.draws with ⟨hn, hg⟩ | ⟨hn, hg⟩
    · rw [hn, hg]; rfl
    · rw [hn, hg]; rfl

/-- A name is drawn for one item only. -/
theorem Step.generatedNames_inj (h : (Step.generatedNames body steps).Nodup) {i j : Nat}
    {p q : Item × Step} (hi : (body.zip steps)[i]? = some p) (hj : (body.zip steps)[j]? = some q)
    {x : String} (hp : x ∈ p.1.generatedNames p.2.conversion.items)
    (hq : x ∈ q.1.generatedNames q.2.conversion.items) : i = j := by
  have hpair := List.pairwise_iff_getElem.1 (List.nodup_flatMap.1 h).2
  obtain ⟨hi', rfl⟩ := List.getElem?_eq_some_iff.1 hi
  obtain ⟨hj', rfl⟩ := List.getElem?_eq_some_iff.1 hj
  rcases Nat.lt_trichotomy i j with hlt | heq | hlt
  · exact absurd hq (List.disjoint_left.1 (hpair i j hi' hj' hlt) hp)
  · exact heq
  · exact absurd hp (List.disjoint_left.1 (hpair j i hj' hi' hlt) hq)

end

/-! ## Where a name is used -/

theorem Expr.identifiers_of_ident {e : Expr} {i : Ident} (h : e.ident? = some i) :
    e.identifiers = [i.name] := by
  induction e with
  | ident j => cases h; rfl
  | paren s e ih => exact ih h
  | other t => cases h

/-- The name that stands for a target is its own or a drawn one. -/
theorem FreshNames.Gives.name_cases {g g' : FreshNames} {s : Span} {o : Option Ident} {i : Ident}
    (h : g.Gives s o i g') :
    i.name ∈ (o.map Ident.name).toList ∨ (i.name = g.next.1 ∧ g' = g.next.2) := by
  cases h with
  | own => exact Or.inl (by simp)
  | fresh => exact Or.inr ⟨rfl, rfl⟩

theorem ExportList.remains_identifiers {mode : Mode} {l : ExportList} {d : NamedSpecifier}
    {others : List Specifier} (h : Specifier.splitDefault l.specifiers = some (d, others)) :
    ∀ it ∈ l.remains mode others, ∀ x ∈ it.identifiers, x ∈ l.identifiers := by
  obtain ⟨before, after, hl, rfl, -, -⟩ := Specifier.splitDefault_eq_some h
  intro it hit x hx
  rw [mem_remains hit] at hx
  simp only [Item.identifiers, identifiers, hl, List.mem_append, List.mem_flatMap] at hx ⊢
  refine hx.imp_left (Or.imp_left ?_)
  rintro ⟨s, hs, hxs⟩
  refine ⟨s, List.mem_append.1 ?_, hxs⟩
  split_ifs at hs with hk
  · exact hs
  · exact ((List.sublist_cons_self _ after).append_left before).subset hs

/-- The local name of the default entry is one of the list. -/
theorem ExportList.orig_mem_identifiers {l : ExportList} {d : NamedSpecifier}
    {others : List Specifier} (h : Specifier.splitDefault l.specifiers = some (d, others))
    {x : String} (hx : x ∈ (d.orig.ident?.map Ident.name).toList) : x ∈ l.identifiers := by
  obtain ⟨before, after, hl, -, -, -⟩ := Specifier.splitDefault_eq_some h
  have hd : x ∈ Specifier.identifiers (.named d) := by
    rcases ho : d.orig with i | t
    · simp only [ho, ExportName.ident?, Option.map_some, Option.toList_some] at hx
      simp [Specifier.identifiers, ho, ExportName.identifiers, List.mem_singleton.1 hx]
    · simp [ho, ExportName.ident?] at hx
  simp only [identifiers, hl, List.flatMap_append, List.flatMap_cons, List.mem_append]
  tauto

/-- **A conversion brings in no name** but the one that it draws. -/
theorem Converted.identifiers {mode : Mode} {g g' : FreshNames} {item : Item} {e : Event}
    {items : List Item} (h : Converted mode g item e items g') :
    ∀ it ∈ items, ∀ x ∈ it.identifiers,
      x ∈ item.identifiers ∨ (x = g.next.1 ∧ g' = g.next.2) := by
  intro it hit x hx
  cases h with
  | @list l d others i _ hs hd hg =>
    rcases List.mem_append.1 hit with hit | hit
    · exact Or.inl (l.remains_identifiers hd it hit x hx)
    · rw [List.mem_singleton.1 hit] at hx
      obtain rfl := List.mem_singleton.1 hx
      exact hg.name_cases.imp_left (l.orig_mem_identifiers hd)
  | @definition s n b i _ hg =>
    have hname : x = i.name → x ∈ (Item.defaultDefinition s n b).identifiers ∨
        (x = g.next.1 ∧ g' = g.next.2) := by
      rintro rfl
      exact hg.name_cases.imp_left (List.mem_append_left _)
    simp only [List.mem_cons, Mode.mem_kept] at hit
    rcases hit with rfl | rfl | ⟨-, rfl⟩
    · rcases List.mem_cons.1 hx with hx | hx
      · exact hname hx
      · exact Or.inl (List.mem_append_right _ hx)
    · exact hname (List.mem_singleton.1 hx)
    · exact hname (List.mem_singleton.1 hx)
  | @ident s e i he =>
    have hid : (Item.defaultExpr s e).identifiers = [i.name] := Expr.identifiers_of_ident he
    simp only [List.mem_append, Mode.mem_kept, List.mem_singleton] at hit
    rcases hit with ⟨-, rfl⟩ | rfl
    · exact Or.inl hx
    · exact Or.inl (hid ▸ hx)
  | value =>
    rw [List.mem_singleton.1 hit] at hx
    exact Or.inl hx
  | repeated =>
    rcases List.mem_pair.1 hit with rfl | rfl
    · exact Or.inl hx
    · exact Or.inl hx
  | @hoisted s e i _ he hk ha hg =>
    have hname : x = i.name → x ∈ (Item.defaultExpr s e).identifiers ∨
        (x = g.next.1 ∧ g' = g.next.2) := by
      rintro rfl
      exact hg.name_cases.imp_left (by simp)
    simp only [List.mem_cons, List.not_mem_nil, or_false] at hit
    rcases hit with rfl | rfl | rfl
    · simp only [Item.constant, Item.identifiers, Declaration.identifiers, List.flatMap_cons,
        List.flatMap_nil, List.append_nil, Declarator.identifiers, Pattern.identifiers,
        Tree.identifiers, Option.map_some, Option.getD_some, List.mem_append,
        List.mem_singleton] at hx
      exact hx.elim hname Or.inl
    · exact hname (List.mem_singleton.1 hx)
    · exact hname (List.mem_singleton.1 hx)

theorem Step.Of.identifiers {mode : Mode} {g : FreshNames} {item : Item} {s : Step}
    (h : s.Of mode g item) : ∀ it ∈ s.conversion.items, ∀ x ∈ it.identifiers,
      x ∈ item.identifiers ∨ x ∈ item.generatedNames s.conversion.items := by
  intro it hit x hx
  rcases h with rfl | ⟨e, items, g', rfl, hc⟩
  · exact Or.inl (List.mem_singleton.1 hit ▸ hx)
  · refine (hc.identifiers it hit x hx).imp_right ?_
    rintro ⟨rfl, rfl⟩
    rcases hc.draws with ⟨-, hg⟩ | ⟨hn, -⟩
    · exact absurd hg g.next_ne
    · exact hn ▸ List.mem_singleton_self _

/-! ## Declarations of a generated name -/

/-- A replacement introduces a name: it declares it, exports it, and uses it for
    nothing else. -/
def Introduces (x : String) (c : Conversion) : Prop :=
  ∃ d rest, c = .replace (.declaration d :: rest) ∧ d.names = [x] ∧
    d.toTree.identifiers.count x = 1 ∧
    ∀ it ∈ rest, ∃ form s i, it = Item.assign form s (.ident i) ∧ i.name = x

/-- The names that an item can declare: all that it mentions, unless it does
    nothing but export. -/
def Item.mayDeclare : Item → List String
  | .exportList _ | .exportAll _ | .exportNamespace _ | .defaultExpr _ _ | .exportEquals _ _ => []
  | item => item.identifiers

theorem Converted.introduces {mode : Mode} {g g' : FreshNames} {item : Item} {e : Event}
    {items : List Item} (h : Converted mode g item e items g') {x : String}
    (hx : x ∈ item.namesDeclaredFor items) (hnew : x ∉ item.identifiers) :
    Introduces x (.replace items) := by
  have hdrawn : x = g.next.1 := h.draws.eq_of_mem (List.mem_append_left _ hx)
  cases h with
  | list => cases hx
  | @definition s n b i _ hg =>
    cases hg with
    | own => cases hx
    | fresh =>
      refine ⟨_, _, rfl, by rw [hdrawn]; rfl, ?_, fun it hit => ?_⟩
      · have hparts : x ∉ Tree.identifiersFields b.parts :=
          fun hp => hnew (List.mem_append_right _ hp)
        rw [Declaration.identifiers_toTree, Declaration.identifiers, Ident.generated, ← hdrawn,
          List.count_cons_self, List.count_eq_zero_of_not_mem hparts]
      · simp only [List.mem_cons, Mode.mem_kept] at hit
        rcases hit with rfl | ⟨-, rfl⟩
        · exact ⟨.equals, s, _, rfl, hdrawn.symm⟩
        · exact ⟨.default, s, _, rfl, hdrawn.symm⟩
  | ident he =>
    obtain ⟨it, hit, hx⟩ := List.mem_flatMap.1 hx
    simp only [List.mem_append, Mode.mem_kept, List.mem_singleton] at hit
    rcases hit with ⟨-, rfl⟩ | rfl <;> cases hx
  | value | repeated => cases hx
  | @hoisted s e i _ he hk ha hg =>
    cases hg with
    | fresh =>
      refine ⟨_, _, rfl, by rw [hdrawn]; rfl, ?_, fun it hit => ?_⟩
      · have hvalue : x ∉ e.identifiers := hnew
        rw [Declaration.identifiers_toTree]
        simp [Declaration.identifiers, Declarator.identifiers, Pattern.identifiers,
          Tree.identifiers, Ident.generated, ← hdrawn, List.count_eq_zero_of_not_mem hvalue]
      · rcases List.mem_pair.1 hit with rfl | rfl
        · exact ⟨.default, s, _, rfl, hdrawn.symm⟩
        · exact ⟨.equals, s, _, rfl, hdrawn.symm⟩

theorem Step.Of.introduces {mode : Mode} {g : FreshNames} {item : Item} {s : Step}
    (h : s.Of mode g item) {x : String} (hx : x ∈ item.namesDeclaredFor s.conversion.items)
    (hnew : x ∉ item.identifiers) : Introduces x s.conversion := by
  rcases h with rfl | ⟨e, items, g', rfl, hc⟩
  · -- an item that is kept is no declaration
    simp only [Step.keep, Conversion.items] at hx
    cases item with
    | defaultDefinition s n d => cases n <;> cases hx
    | _ => cases hx
  · exact hc.introduces hx hnew

/-- The items of a replacement that introduces a name declare it once. -/
theorem Introduces.countP {x : String} {c : Conversion} (h : Introduces x c) :
    c.items.countP (fun it => it.mayDeclare.contains x) = 1 := by
  obtain ⟨d, rest, rfl, -, hd, hrest⟩ := h
  have hx : x ∈ d.identifiers := by
    rw [← Declaration.identifiers_toTree, ← List.count_pos_iff, hd]
    exact Nat.one_pos
  have hzero : rest.countP (fun it => it.mayDeclare.contains x) = 0 := by
    refine List.countP_eq_zero.2 fun it hit => ?_
    obtain ⟨form, s, i, rfl, -⟩ := hrest it hit
    cases form <;> simp [Item.assign, Item.mayDeclare]
  rw [Conversion.items, List.countP_cons_of_pos (by simpa [Item.mayDeclare, Item.identifiers]),
    hzero]

theorem Item.mayDeclare_subset (item : Item) : ∀ x ∈ item.mayDeclare, x ∈ item.identifiers := by
  cases item <;> simp [mayDeclare]

/-! ## The whole file -/

/-- What holds only of items that one step leaves is counted there. -/
theorem Step.countP_output {p : Item → Bool} {steps : List Step} {i : Nat} {step : Step}
    (hs : steps[i]? = some step) (hp : ∀ (j : Nat) (step' : Step), steps[j]? = some step' →
      ∀ it ∈ step'.conversion.items, p it = true → j = i) :
    (output steps).countP p = step.conversion.items.countP p := by
  induction steps generalizing i with
  | nil => cases hs
  | cons s steps ih =>
    rw [output_cons, List.countP_append]
    cases i with
    | zero =>
      obtain rfl : s = step := Option.some.inj hs
      have hzero : (output steps).countP p = 0 := by
        refine List.countP_eq_zero.2 fun it hit hpit => ?_
        obtain ⟨j, s', hj, hit⟩ := Step.mem_output.1 hit
        cases hp (j + 1) s' hj it hit hpit
      rw [hzero, Nat.add_zero]
    | succ i =>
      have hzero : s.conversion.items.countP p = 0 :=
        List.countP_eq_zero.2 fun it hit hpit => by cases hp 0 s rfl it hit hpit
      rw [hzero, Nat.zero_add]
      exact ih hs fun j s' hj it hit hpit => Nat.succ.inj (hp (j + 1) s' hj it hit hpit)

/-- **Fresh names capture nothing.**  The names that are generated for a file are
    all that are drawn; they differ from each other and from every identifier of
    the file.  A name that is generated for the declaration of an item is
    introduced by the items that replace it, no other item declares it, and no
    other item uses it. -/
theorem SourceFile.generatedNames_capture_nothing (f : SourceFile) (options : Options) :
    (Step.namesAfter (FreshNames.ofModule f.module) (f.steps options)).taken =
      (Step.generatedNames f.module.body (f.steps options)).reverse ++
        f.module.toTree.identifiers ∧
    (Step.generatedNames f.module.body (f.steps options)).Nodup ∧
    (∀ x ∈ Step.generatedNames f.module.body (f.steps options),
      x ∉ f.module.toTree.identifiers) ∧
    ∀ (i : Nat) (item : Item), f.module.body[i]? = some item →
      ∃ step, (f.steps options)[i]? = some step ∧
        ∀ x ∈ item.namesDeclaredFor step.conversion.items,
          Introduces x step.conversion ∧
          (f.convert options).result.module.body.countP
            (fun it => it.mayDeclare.contains x) = 1 ∧
          ∀ (j : Nat) (step' : Step), (f.steps options)[j]? = some step' →
            ∀ it ∈ step'.conversion.items, x ∈ it.toTree.identifiers → j = i := by
  have hrun := f.steps_run options
  obtain ⟨hnew, hnodup⟩ := hrun.generatedNames_fresh
  rw [Module.identifiers_toTree]
  refine ⟨hrun.taken_after, hnodup, hnew, fun i item hi => ?_⟩
  obtain ⟨hnone, -⟩ | ⟨item', step, g, hi', hs, hof⟩ := hrun.getElem?_cases i
  · rw [hi] at hnone; cases hnone
  obtain rfl : item = item' := Option.some.inj (hi.symm.trans hi')
  refine ⟨step, hs, fun x hx => ?_⟩
  have hzip : ∀ {j : Nat} {item' : Item} {step' : Step}, f.module.body[j]? = some item' →
      (f.steps options)[j]? = some step' →
      (f.module.body.zip (f.steps options))[j]? = some (item', step') :=
    fun hj hj' => List.getElem?_zip_eq_some.2 ⟨hj, hj'⟩
  have hgen : x ∈ item.generatedNames step.conversion.items := List.mem_append_left _ hx
  have hbody : ∀ it ∈ f.module.body, x ∉ it.identifiers := fun it hit hxit =>
    hnew x (List.mem_flatMap.2 ⟨_, List.mem_of_getElem? (hzip hi hs), hgen⟩)
      (List.mem_flatMap.2 ⟨it, hit, hxit⟩)
  -- another step that used the name would have drawn it once more
  have hconfined : ∀ (j : Nat) (step' : Step), (f.steps options)[j]? = some step' →
      ∀ it ∈ step'.conversion.items, x ∈ it.identifiers → j = i := by
    intro j step' hj it hit hxit
    obtain ⟨-, hnone⟩ | ⟨item', step'', g', hj', hs', hof'⟩ := hrun.getElem?_cases j
    · rw [hj] at hnone; cases hnone
    obtain rfl : step' = step'' := Option.some.inj (hj.symm.trans hs')
    rcases hof'.identifiers it hit x hxit with hin | hdrawn
    · exact absurd hin (hbody item' (List.mem_of_getElem? hj'))
    · exact Step.generatedNames_inj hnodup (hzip hj' hj) (hzip hi hs) hdrawn hgen
  have hintro := hof.introduces hx (hbody item (List.mem_of_getElem? hi))
  refine ⟨hintro, ?_, fun j step' hj it hit hxit => ?_⟩
  · rw [SourceFile.convert_body, Step.countP_output hs fun j step' hj it hit hp => ?_,
      hintro.countP]
    exact hconfined j step' hj it hit (it.mayDeclare_subset x (by simpa using hp))
  · exact hconfined j step' hj it hit (it.identifiers_toTree ▸ hxit)

end SoleExport
