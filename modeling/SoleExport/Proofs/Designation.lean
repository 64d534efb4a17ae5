/-
  What a default export designates.

  A default export designates a variable, a function or a class, or the value of
  an expression (`Item.designation?`).  In the items that replace it, an
  identifier that they declare stands for what it is declared as
  (`Designation.resolve`); any other is a variable of the module.

  * `Item.convert_designation`: a conversion leaves one `export =`, which
    designates what the default export did, and a default export that is kept
    does so too.
-/
import SoleExport.Proofs.Rules

namespace SoleExport

/-! ## Designations of items -/

/-- What an export can designate. -/
inductive Designation where
  /-- a variable of the module -/
  | variable (i : Ident)
  /-- a function or a class, with its name if it has one -/
  | definition (sort : DefinitionSort) (parts : Fields) (name : Option Ident)
  /-- the value of an expression -/
  | value (e : Expr)

/-- An expression designates the variable it consists of, in any number of
    parentheses, or its value. -/
def Expr.designation (e : Expr) : Designation :=
  match e.ident? with
  | some i => .variable i
  | none => .value e

/-- The entry by which an export list exports a default: the first one
    `x as default`. -/
def ExportList.chosen? (l : ExportList) : Option NamedSpecifier :=
  l.specifiers.findSome? Specifier.defaultRename?

/-- What the default export of an item designates. -/
def Item.designation? : Item → Option Designation
  | .exportList l =>
    if l.source.isSome then none
    else l.chosen?.bind fun d => d.orig.ident?.map .variable
  | .defaultDefinition _ n d => some (.definition d.sort d.parts n)
  | .defaultExpr _ e => some e.designation
  | _ => none

/-- Whether an item is a list whose default entry has a string literal in the
    place of the local name, as in `export { "a" as default }`. -/
def Item.hasLiteralDefault : Item → Bool
  | .exportList l => l.chosen?.any fun d => d.orig.ident?.isNone
  | _ => false

/-! ## Designations in a replacement -/

/-- What a declarator declares `x` as. -/
def Declarator.declared? (x : String) (d : Declarator) : Option Designation :=
  match d.target, d.init with
  | .ident i _, some e => if i.name = x then some (.value e) else none
  | _, _ => none

/-- What an item declares `x` as. -/
def Item.declared? (x : String) : Item → Option Designation
  | .declaration (.definition i _ d) =>
    if i.name = x then some (.definition d.sort d.parts (some i)) else none
  | .declaration (.variable v) => v.declarators.findSome? (Declarator.declared? x)
  | _ => none

/-- What a designation comes to among items that may declare the variable. -/
def Designation.resolve (items : List Item) : Designation → Designation
  | .variable i => (items.findSome? (Item.declared? i.name)).getD (.variable i)
  | m => m

/-- The operand of `export =`. -/
def Item.equalsOperand? : Item → Option Expr
  | .exportEquals _ e => some e
  | _ => none

/-- What an operand says by itself: an identifier is a variable, anything else,
    also in parentheses, an expression. -/
def Expr.operandDesignation : Expr → Designation
  | .ident i => .variable i
  | e => .value e

/-- The second designation is the first one, except that a function or class
    without a name may have got one. -/
def Designation.KeptAs : Designation → Designation → Prop
  | .definition s p none, m => ∃ n, m = .definition s p n
  | m, m' => m' = m

/-! ## Preservation -/

theorem Expr.designation_of_ident {e : Expr} {i : Ident} (h : e.ident? = some i) :
    e.designation = .variable i := by
  simp only [designation, h]

theorem Expr.designation_of_none {e : Expr} (h : e.ident? = none) : e.designation = .value e := by
  simp only [designation, h]

theorem Expr.operandDesignation_of_none {e : Expr} (h : e.ident? = none) :
    e.operandDesignation = .value e := by
  cases e with
  | ident i => cases h
  | paren | other => rfl

/-- A variable that no item declares stays a variable. -/
theorem Designation.resolve_of_not_declared {items : List Item} {i : Ident}
    (h : ∀ it ∈ items, it.declared? i.name = none) :
    (Designation.variable i).resolve items = .variable i := by
  rw [resolve, List.findSome?_eq_none_iff.2 h, Option.getD_none]

/-- A name that is given to a definition keeps what the definition is. -/
theorem FreshNames.Gives.keptAs {g g' : FreshNames} {s : Span} {n : Option Ident} {i : Ident}
    (h : g.Gives s n i g') (sort : DefinitionSort) (parts : Fields) :
    (Designation.definition sort parts n).KeptAs (.definition sort parts (some i)) := by
  cases h with
  | own => rfl
  | fresh => exact ⟨_, rfl⟩

/-- The default entry of a list is the one that a conversion takes out. -/
theorem ExportList.chosen?_of_split {l : ExportList} {d : NamedSpecifier}
    {others : List Specifier} (h : Specifier.splitDefault l.specifiers = some (d, others)) :
    l.chosen? = some d := by
  obtain ⟨before, after, hl, -, hb, hd⟩ := Specifier.splitDefault_eq_some h
  rw [chosen?, hl, List.findSome?_append, List.findSome?_eq_none_iff.2 hb, Option.none_or,
    List.findSome?_cons, hd]

/-- What remains of a list has nothing that only other items have. -/
theorem ExportList.filterMap_remains {α : Type} {f : Item → Option α}
    (hf : ∀ l, f (.exportList l) = none) (mode : Mode) (l : ExportList)
    (others : List Specifier) : (l.remains mode others).filterMap f = [] := by
  refine List.filterMap_eq_nil_iff.2 fun it hit => ?_
  rw [mem_remains hit, hf]

/-- What a replacement owes to an item whose default export designates `m`: one
    `export =`, which designates `m`, and one default export designating `m` if
    it is to be kept. -/
structure Mode.Restates (mode : Mode) (m : Designation) (items : List Item) : Prop where
  equals : ∃ e, items.filterMap Item.equalsOperand? = [e] ∧
    m.KeptAs (e.operandDesignation.resolve items)
  kept : mode.options.keepDefault = true →
    ∃ m', items.filterMap Item.designation? = [m'] ∧ m.KeptAs (m'.resolve items)

/-- A list is replaced by itself or what remains of it and `export = x`, which
    declare nothing. -/
theorem ExportList.restates {mode : Mode} {l : ExportList} {others : List Specifier}
    {d : NamedSpecifier} {i : Ident} (hs : l.source = none) (hd : l.chosen? = some d)
    (hi : d.orig.ident? = some i) :
    mode.Restates (.variable i) (l.remains mode others ++ [.exportEquals l.span (.ident i)]) := by
  have hres : (Designation.variable i).resolve
      (l.remains mode others ++ [.exportEquals l.span (.ident i)]) = .variable i := by
    refine Designation.resolve_of_not_declared fun it hit => ?_
    rcases List.mem_append.1 hit with hit | hit
    · rw [ExportList.mem_remains hit]; rfl
    · rw [List.mem_singleton.1 hit]; rfl
  refine ⟨⟨.ident i, ?_, hres⟩, fun hk => ⟨.variable i, ?_, hres⟩⟩
  · rw [List.filterMap_append, l.filterMap_remains fun _ => rfl]; rfl
  · simp [remains, hk, Item.designation?, hs, hd, hi]

/-- A definition under a name is designated by that name. -/
theorem Definition.restates (mode : Mode) (m : Designation) (s : Span) (i : Ident)
    (b : Definition) (hm : m.KeptAs (.definition b.sort b.parts (some i))) :
    mode.Restates m (.declaration (.definition i mode.ambient b) ::
      .exportEquals s (.ident i) :: mode.kept (.defaultExpr s (.ident i))) := by
  have hres : (Designation.variable i).resolve (.declaration (.definition i mode.ambient b) ::
      .exportEquals s (.ident i) :: mode.kept (.defaultExpr s (.ident i))) =
      .definition b.sort b.parts (some i) := by
    simp [Designation.resolve, Item.declared?]
  refine ⟨⟨.ident i, ?_, hres ▸ hm⟩, fun hk => ⟨.variable i, ?_, hres ▸ hm⟩⟩
  · unfold Mode.kept
    split_ifs <;> rfl
  · rw [Mode.kept, if_pos hk]; rfl

/-- An identifier is exported as it is, by items that declare nothing. -/
theorem Expr.restates_ident (mode : Mode) (s : Span) {e : Expr} {i : Ident}
    (he : e.ident? = some i) :
    mode.Restates e.designation (mode.kept (.defaultExpr s e) ++ [.exportEquals s (.ident i)]) := by
  have hres : (Designation.variable i).resolve
      (mode.kept (.defaultExpr s e) ++ [.exportEquals s (.ident i)]) = .variable i := by
    refine Designation.resolve_of_not_declared ?_
    unfold Mode.kept
    split_ifs <;> simp [Item.declared?]
  rw [Expr.designation_of_ident he]
  refine ⟨⟨.ident i, ?_, hres⟩, fun hk => ⟨.variable i, ?_, hres⟩⟩
  · unfold Mode.kept
    split_ifs <;> rfl
  · simp [Mode.kept, hk, Item.designation?, Expr.designation_of_ident he]

/-- A constant stands for its value. -/
theorem Expr.restates_hoisted (mode : Mode) (s : Span) (i : Ident) (e : Expr) :
    mode.Restates (.value e)
      [.constant i s e, .defaultExpr s (.ident i), .exportEquals s (.ident i)] := by
  have hres : (Designation.variable i).resolve
      [.constant i s e, .defaultExpr s (.ident i), .exportEquals s (.ident i)] = .value e := by
    simp [Designation.resolve, Item.constant, Item.declared?, Declarator.declared?]
  exact ⟨⟨.ident i, rfl, hres⟩, fun _ => ⟨.variable i, rfl, hres⟩⟩

/-- **The meaning of the default export is preserved.**  An item that is
    replaced had a default export, the replacement has one `export =`, and that
    designates what the default export did; so does the one default export that
    the replacement has if it is to be kept. -/
theorem Item.convert_designation {mode : Mode} {g : FreshNames} {item : Item}
    {items : List Item} (h : (item.convert mode g).conversion = .replace items)
    (hl : item.hasLiteralDefault = false) :
    ∃ m, item.designation? = some m ∧ mode.Restates m items := by
  obtain ⟨e, g', -, hc⟩ := Item.converted_of_replace h
  cases hc with
  | @list l d others i _ hs hd hg =>
    have hd := ExportList.chosen?_of_split hd
    rcases ho : d.orig with j | t
    · -- a local name is used as it is
      rw [ho] at hg
      cases hg with
      | own => exact ⟨_, by simp [designation?, hs, hd, ho, ExportName.ident?],
          ExportList.restates hs hd (by rw [ho]; rfl)⟩
    · simp [hasLiteralDefault, hd, ho, ExportName.ident?] at hl
  | @definition s n b i _ hg =>
    exact ⟨_, rfl, Definition.restates mode _ s i _ (hg.keptAs b.sort b.parts)⟩
  | ident he => exact ⟨_, rfl, Expr.restates_ident mode _ he⟩
  | @value s e he hk =>
    refine ⟨.value e, congrArg some (Expr.designation_of_none he), ⟨e, rfl, ?_⟩, fun h => ?_⟩
    · rw [Expr.operandDesignation_of_none he]; rfl
    · rw [hk] at h; cases h
  | @repeated s e he hk ha =>
    refine ⟨.value e, congrArg some (Expr.designation_of_none he), ⟨e, rfl, ?_⟩,
      fun _ => ⟨.value e, ?_, rfl⟩⟩
    · rw [Expr.operandDesignation_of_none he]; rfl
    · simp [designation?, Expr.designation_of_none he]
  | @hoisted s e i _ he hk ha hg =>
    exact ⟨.value e, congrArg some (Expr.designation_of_none he), Expr.restates_hoisted mode s i e⟩

/-- A class without a name, kept next to `export =`, where `default_1` is taken. -/
theorem Item.convert_designation_anonymous :
    ((Item.defaultDefinition ⟨1, 24⟩ none ⟨.ofClass, ⟨16, 24⟩, [("body", .list [])]⟩).convert
        ⟨⟨true, false⟩, false⟩ ⟨["default_1"], 0⟩).conversion =
      .replace [
        .declaration (.definition ⟨⟨1, 24⟩, 0, "default_2", false⟩ false
          ⟨.ofClass, ⟨1, 24⟩, [("body", .list [])]⟩),
        .exportEquals ⟨1, 24⟩ (.ident ⟨⟨1, 24⟩, 0, "default_2", false⟩),
        .defaultExpr ⟨1, 24⟩ (.ident ⟨⟨1, 24⟩, 0, "default_2", false⟩)] ∧
    ∃ m, (Item.defaultDefinition ⟨1, 24⟩ none
        ⟨.ofClass, ⟨16, 24⟩, [("body", .list [])]⟩).designation? = some m ∧
      Mode.Restates ⟨⟨true, false⟩, false⟩ m [
        .declaration (.definition ⟨⟨1, 24⟩, 0, "default_2", false⟩ false
          ⟨.ofClass, ⟨1, 24⟩, [("body", .list [])]⟩),
        .exportEquals ⟨1, 24⟩ (.ident ⟨⟨1, 24⟩, 0, "default_2", false⟩),
        .defaultExpr ⟨1, 24⟩ (.ident ⟨⟨1, 24⟩, 0, "default_2", false⟩)] :=
  ⟨rfl, Item.convert_designation (g := ⟨["default_1"], 0⟩) rfl rfl⟩

end SoleExport
