/-
  The conversion rules.

  A rule looks at one top-level item.  Three forms of default export are
  converted to `export =`, everything else is kept:

  * an export list without a source, by its first entry `x as default`
    (`ExportList.convert`);
  * `export default` with a function or a class, which becomes a declaration
    (`Definition.convert`);
  * `export default` with an expression (`Expr.convert`).

  With `keepDefault` the default export stays, next to `export =`.  An
  expression that is kept is evaluated once only: it is bound to a constant
  under a fresh name first, unless the file is ambient and nothing is evaluated.
-/
import SoleExport.Assignment
import SoleExport.Event
import SoleExport.Options

namespace SoleExport

/-- What becomes of an item. -/
inductive Conversion where
  /-- No rule matched. -/
  | keep (item : Item)
  /-- A rule matched and produced these items. -/
  | replace (items : List Item)

/-- The items that stand in the place of the item. -/
def Conversion.items : Conversion → List Item
  | .keep i => [i]
  | .replace is => is

/-- Whether a rule matched. -/
def Conversion.isReplacement : Conversion → Bool
  | .keep _ => false
  | .replace _ => true

/-- What the rules depend on besides the item. -/
structure Mode where
  options : Options
  /-- Whether the file is a declaration file. -/
  ambient : Bool
deriving DecidableEq, Repr, Inhabited

/-- The outcome of looking at one item. -/
structure Step where
  conversion : Conversion
  /-- What was logged. -/
  events : List Event
  /-- The fresh names that are left. -/
  names : FreshNames

/-- The outcome for an item that no rule matches. -/
def Step.keep (item : Item) (names : FreshNames) : Step := ⟨.keep item, [], names⟩

/-! ## Export lists -/

/-- Whether an entry is `x as default`, with `default` as an identifier. -/
def Specifier.defaultRename? : Specifier → Option NamedSpecifier
  | .named s =>
    match s.exported with
    | some (.ident i) => if i.name = defaultName then some s else none
    | _ => none
  | _ => none

/-- The first entry `x as default` of some entries, and the entries other than
    it. -/
def Specifier.splitDefault : List Specifier → Option (NamedSpecifier × List Specifier)
  | [] => none
  | s :: rest =>
    match s.defaultRename? with
    | some d => some (d, rest)
    | none => (splitDefault rest).map fun r => (r.1, s :: r.2)

/-- `export { x as default, y }` becomes `export { y }; export = x`. -/
def ExportList.convert (mode : Mode) (names : FreshNames) (list : ExportList) : Step :=
  if list.source.isSome then .keep (.exportList list) names
  else
    match Specifier.splitDefault list.specifiers with
    | none => .keep (.exportList list) names
    | some (d, others) =>
      let (equals, names) := (Target.specifier d).assign .equals list.span names
      let kept :=
        if mode.options.keepDefault then [Item.exportList list]
        else if others.isEmpty then []
        else [Item.exportList { list with specifiers := others }]
      ⟨.replace (kept ++ [equals]), [.listConverted (!others.isEmpty)], names⟩

/-! ## Functions and classes -/

/-- `export default function f() {}` becomes `function f() {} export = f`.  The
    declaration starts where the item did, so that comments above the item stay
    with it; without a name it gets a fresh one. -/
def Definition.convert (mode : Mode) (names : FreshNames) (span : Span) (name : Option Ident)
    (body : Definition) : Step :=
  let (i, names) :=
    match name with
    | some i => (i, names)
    | none => names.nextIdent span
  let moved := { body with span := Span.between span.start body.span.stop }
  let declaration := Declaration.definition i mode.ambient moved
  let (equals, names) := (Target.declaration declaration).assign .equals span names
  let (restated, names) :=
    if mode.options.keepDefault then
      let (item, names) := (Target.declaration declaration).assign .default span names
      ([item], names)
    else ([], names)
  ⟨.replace (.declaration declaration :: equals :: restated),
    [.definitionConverted mode.ambient], names⟩

/-! ## Expressions -/

/-- `const i = value` -/
def Item.constant (i : Ident) (span : Span) (value : Expr) : Item :=
  .declaration (.variable
    ⟨span, 0, "const", false, [⟨span, .ident i .null, some value, false⟩]⟩)

/-- `export default e` becomes `export = e`. -/
def Expr.convert (mode : Mode) (names : FreshNames) (span : Span) (value : Expr) : Step :=
  let keep := mode.options.keepDefault
  match value.ident? with
  | some _ =>
    let (equals, names) := (Target.expr value).assign .equals span names
    let kept := if keep then [Item.defaultExpr span value] else []
    ⟨.replace (kept ++ [equals]), [.identConverted keep], names⟩
  | none =>
    let events := [Event.exprConverted keep]
    if !keep then ⟨.replace [Item.assign .equals span value], events, names⟩
    else if mode.ambient then
      ⟨.replace [.defaultExpr span value, Item.assign .equals span value], events, names⟩
    else
      let (i, names) := names.nextIdent span
      let (restated, names) := (Target.ident i).assign .default span names
      let (equals, names) := (Target.ident i).assign .equals span names
      ⟨.replace [Item.constant i span value, restated, equals], events, names⟩

/-! ## Items and bodies -/

/-- Look at one item. -/
def Item.convert (mode : Mode) (names : FreshNames) : Item → Step
  | .exportList l => l.convert mode names
  | .defaultDefinition s n d => d.convert mode names s n
  | .defaultExpr s e => e.convert mode names s
  | i => .keep i names

/-- Look at the items of a body in order, all with the same fresh names. -/
def Item.convertAll (mode : Mode) (names : FreshNames) : List Item → List Step
  | [] => []
  | i :: is =>
    let step := i.convert mode names
    step :: convertAll mode step.names is

/-- The mode of a file. -/
def SourceFile.mode (f : SourceFile) (options : Options) : Mode := ⟨options, f.isDeclaration⟩

/-- Look at every item of a file; no fresh name is spelled in it. -/
def SourceFile.steps (f : SourceFile) (options : Options) : List Step :=
  Item.convertAll (f.mode options) (FreshNames.ofModule f.module) f.module.body

end SoleExport
