/-
  The contents of a module.

  What an item holds besides names is code: the value of an expression, a
  function or a class, the initial values of variables (`Item.contents`).  A
  conversion moves code from one kind of item to another, and must neither drop
  nor repeat it, nor move it past other code, since it is evaluated where it
  stands.

  * `Converted.contents`: an item that is replaced leaves its code in the place
    of the item;
  * `Item.contents_convertAll`: so that a body is left with its code, in order;
  * `SourceFile.convert_contents`: a file keeps its contents, except that in a
    declaration file, where nothing is evaluated, a default expression that is
    kept is spelled twice.
-/
import SoleExport.Proofs.DefaultForms

namespace SoleExport

/-! ## Contents -/

/-- A piece of the contents of a module. -/
inductive Payload where
  /-- the value of an expression -/
  | value (e : Expr)
  /-- a function or a class, whatever its name -/
  | definition (sort : DefinitionSort) (parts : Fields)
  /-- an item that is carried along as a whole -/
  | item (i : Item)

/-- An exported expression is code unless it is a variable, in any number of
    parentheses. -/
def Expr.contents (e : Expr) : List Payload := if e.ident?.isSome then [] else [.value e]

/-- The contents of an item, in the order in which they stand. -/
def Item.contents : Item → List Payload
  | .defaultExpr _ e | .exportEquals _ e => e.contents
  | .defaultDefinition _ _ d | .declaration (.definition _ _ d) => [.definition d.sort d.parts]
  | .declaration (.variable v) => v.declarators.filterMap fun d => d.init.map .value
  | .exportList l => if l.source.isSome then [.item (.exportList l)] else []
  | item => [.item item]

/-- The contents of a module. -/
def Module.contents (m : Module) : List Payload := m.body.flatMap Item.contents

/-- The contents of an item once a default expression is spelled twice. -/
def Item.contentsTwice : Item → List Payload
  | .defaultExpr _ e => e.contents ++ e.contents
  | item => item.contents

/-- Whether default expressions are spelled twice: they are kept, in a file in
    which nothing is evaluated. -/
def Mode.repeats (mode : Mode) : Bool := mode.options.keepDefault && mode.ambient

/-- The contents that a mode makes of those of an item. -/
def Mode.contents (mode : Mode) (item : Item) : List Payload :=
  if mode.repeats then item.contentsTwice else item.contents

theorem Mode.contents_of_twice (mode : Mode) {item : Item}
    (h : item.contentsTwice = item.contents) : mode.contents item = item.contents := by
  rw [Mode.contents, h, ite_self]

theorem Expr.contents_of_ident {e : Expr} {i : Ident} (h : e.ident? = some i) :
    e.contents = [] := by
  rw [contents, h]; rfl

theorem Expr.contents_of_none {e : Expr} (h : e.ident? = none) : e.contents = [.value e] := by
  rw [contents, h]; rfl

/-- A default export of a variable has no contents to be repeated. -/
theorem Item.contentsTwice_of_ident {s : Span} {e : Expr} {i : Ident} (h : e.ident? = some i) :
    (Item.defaultExpr s e).contentsTwice = [] := by
  rw [contentsTwice, Expr.contents_of_ident h]; rfl

theorem ExportList.contents_of_source {l : ExportList} (h : l.source = none) :
    (Item.exportList l).contents = [] := by
  rw [Item.contents, h]; rfl

/-- What remains of a list without a source holds nothing but names. -/
theorem ExportList.contents_remains (mode : Mode) {l : ExportList} (h : l.source = none)
    (others : List Specifier) : (l.remains mode others).flatMap Item.contents = [] := by
  refine List.flatMap_eq_nil_iff.2 fun it hit => ?_
  rw [mem_remains hit]
  exact contents_of_source h

/-- An item that is kept beside others only to restate a variable adds no code. -/
theorem Mode.kept_contents (mode : Mode) {s : Span} {e : Expr} {i : Ident}
    (h : e.ident? = some i) : (mode.kept (.defaultExpr s e)).flatMap Item.contents = [] := by
  refine List.flatMap_eq_nil_iff.2 fun it hit => ?_
  rw [(mem_kept.1 hit).2]
  exact Expr.contents_of_ident h

/-! ## Conversions -/

/-- **A conversion leaves the contents of its item in its place.** -/
theorem Converted.contents {mode : Mode} {g g' : FreshNames} {item : Item} {e : Event}
    {items : List Item} (h : Converted mode g item e items g') :
    items.flatMap Item.contents = mode.contents item := by
  cases h with
  | list hs hd =>
    rw [List.flatMap_append, ExportList.contents_remains mode hs, mode.contents_of_twice rfl,
      ExportList.contents_of_source hs]
    rfl
  | definition =>
    rw [List.flatMap_cons, List.flatMap_cons, mode.kept_contents rfl, mode.contents_of_twice rfl]
    rfl
  | @ident s e i he =>
    have htwice : (Item.defaultExpr s e).contentsTwice = (Item.defaultExpr s e).contents :=
      (Item.contentsTwice_of_ident he).trans (Expr.contents_of_ident he).symm
    rw [List.flatMap_append, mode.kept_contents he, mode.contents_of_twice htwice, Item.contents,
      Expr.contents_of_ident he]
    rfl
  | @value s e he hk =>
    have hr : mode.repeats = false := by rw [Mode.repeats, hk]; rfl
    rw [Mode.contents, hr]
    exact List.append_nil _
  | @repeated s e he hk ha =>
    have hr : mode.repeats = true := by rw [Mode.repeats, hk, ha]; rfl
    rw [Mode.contents, if_pos hr, List.flatMap_cons, List.flatMap_singleton]
    rfl
  | @hoisted s e i _ he hk ha =>
    -- the constant holds the value, and the two exports are variables
    have hr : mode.repeats = false := by rw [Mode.repeats, ha, Bool.and_false]
    rw [Mode.contents, hr, Item.contents, Expr.contents_of_none he]
    rfl

/-- An item that no rule converts is no default expression. -/
theorem Item.contentsTwice_of_not_convertible {item : Item} (h : item.isConvertible = false) :
    item.contentsTwice = item.contents := by
  cases item with
  | defaultExpr => cases h
  | _ => rfl

theorem Item.contents_convert (mode : Mode) (g : FreshNames) (item : Item) :
    (item.convert mode g).conversion.items.flatMap contents = mode.contents item := by
  rcases item.convert_cases_of_form mode g with ⟨hkeep, h⟩ | ⟨-, e, items, g', h, hconv⟩
  · rw [h, mode.contents_of_twice (contentsTwice_of_not_convertible hkeep)]
    exact List.append_nil _
  · rw [h]
    exact hconv.contents

/-! ## Bodies -/

/-- **A body keeps its contents, in order.** -/
theorem Item.contents_convertAll (mode : Mode) :
    ∀ (body : List Item) (g : FreshNames),
      (Step.output (convertAll mode g body)).flatMap contents = body.flatMap mode.contents
  | [], _ => rfl
  | item :: body, g => by
    rw [convertAll, Step.output_cons, List.flatMap_append, item.contents_convert,
      contents_convertAll mode body, List.flatMap_cons]

theorem SourceFile.contents_convert (f : SourceFile) (options : Options) :
    (f.convert options).result.module.contents =
      f.module.body.flatMap (f.mode options).contents := by
  rw [Module.contents, SourceFile.convert_body, SourceFile.steps, Item.contents_convertAll]

/-- **Every expression and every definition is kept once, in its place.**  In a
    declaration file that keeps its default exports, the only difference is that
    each default expression, unless it is a variable, stands there twice in a
    row. -/
theorem SourceFile.convert_contents (f : SourceFile) (options : Options) :
    (f.isDeclaration = false ∨ options.keepDefault = false →
      (f.convert options).result.module.contents = f.module.contents) ∧
    (f.isDeclaration = true → options.keepDefault = true →
      (f.convert options).result.module.contents = f.module.body.flatMap Item.contentsTwice) := by
  rw [SourceFile.contents_convert]
  constructor
  · intro h
    have hr : (f.mode options).repeats = false := by
      rcases h with h | h <;> simp [Mode.repeats, SourceFile.mode, h]
    have honce : (f.mode options).contents = Item.contents := by
      funext item
      rw [Mode.contents, hr]; rfl
    rw [honce]; rfl
  · intro hd hk
    have hr : (f.mode options).repeats = true := by simp [Mode.repeats, SourceFile.mode, hd, hk]
    have htwice : (f.mode options).contents = Item.contentsTwice := by
      funext item
      exact if_pos hr
    rw [htwice]

/-- `f(); export default (g()); export default class {}` -/
def Module.valueThenClass : Module where
  span := ⟨1, 54⟩
  interpreter := none
  body := [
    .statement (.node "ExpressionStatement" [("span", .span ⟨1, 5⟩), ("expression", .str "f()")]),
    .defaultExpr ⟨6, 27⟩ (.paren ⟨21, 26⟩ (.other (.node "CallExpression" [
      ("span", .span ⟨22, 25⟩)]))),
    .defaultDefinition ⟨28, 51⟩ none ⟨.ofClass, ⟨43, 51⟩, [("body", .list [])]⟩]

/-- A call that is kept is evaluated once, after the call before it; in the
    declaration file it is spelled twice. -/
theorem SourceFile.convert_contents_valueThenClass :
    let source : SourceFile := ⟨"a.ts", .valueThenClass⟩
    let declaration : SourceFile := ⟨"a.d.ts", .valueThenClass⟩
    (source.isDeclaration = false ∧
      (source.convert ⟨true, true⟩).result.module.contents = source.module.contents) ∧
    (declaration.isDeclaration = true ∧
      (declaration.convert ⟨true, true⟩).result.module.contents =
        declaration.module.body.flatMap Item.contentsTwice) ∧
    (declaration.convert ⟨true, true⟩).result.module.contents.length =
      (source.convert ⟨true, true⟩).result.module.contents.length + 1 := by
  intro source declaration
  have hs : source.isDeclaration = false := by decide
  have hd : declaration.isDeclaration = true := by decide
  have honce := (SourceFile.convert_contents source ⟨true, true⟩).1 (Or.inl hs)
  have htwice := (SourceFile.convert_contents declaration ⟨true, true⟩).2 hd rfl
  refine ⟨⟨hs, honce⟩, ⟨hd, htwice⟩, ?_⟩
  rw [honce, htwice]
  rfl

end SoleExport
