/-
  The grammar of imports and exports.

  The words `type`, `as` and `from` can be names as well; which of them they are
  depends on the words behind them (`typedEntry`, `importStart`).  `anyItem` is an
  item of a module body: an import, an export, or a statement.
-/
import SoleExport.Grammar.Statements

namespace SoleExport.Grammar

open Rule

/-! ## Sources -/

/-- A name or a string in a list of imports or exports. -/
def moduleName : Rule Tree := do
  if (← token).isString then stringLiteral else anyIdent

/-- What is asked of a source, if anything. -/
def attributes? (g : Grammar) : Rule Tree := do
  let t ← token
  if !t.afterBreak && t.isWordOf ["with", "assert"] then
    let _ ← take
    g.objectLiteral
  else return .null

/-- `from "m"`, what is asked of the source, and the end. -/
def sourceClause (g : Grammar) : Rule (Tree × Tree) := do
  word "from"
  let source ← stringLiteral
  let attributes ← g.attributes?
  semicolon
  return (source, attributes)

/-! ## Entries -/

/-- An entry of a list of imports or exports. -/
structure Entry where
  name : Tree
  /-- The name after `as`, if there is one. -/
  renamed : Tree
  /-- Whether `type` stands before it. -/
  isType : Bool
  span : Span

/-- An entry whose name has been read. -/
def entryRest (rename : Rule Tree) (start : Nat) (name : Tree) (isType : Bool) : Rule Entry := do
  let renamed ← if ← takeWord? "as" then rename else pure .null
  return ⟨name, renamed, isType, ⟨start, ← last⟩⟩

/-- An entry that starts with `type as`: in `type as` and in `type as as x` the
    name is `as`, in `type as x` and in `type as as` it is `type`.  Only an entry in
    which nothing is renamed, or a name is renamed to `as`, extends over all its
    words. -/
def entryAfterTypeAs (rename : Rule Tree) (widens : Bool) (typeName asName : Tree) :
    Rule Entry := do
  let start := typeName.range.start
  if !(← token).isAnyWord then return ⟨asName, .null, true, ⟨start, ← last⟩⟩
  let second ← rename
  if second.text "value" ≠ "as" then return ⟨typeName, second, false, typeName.range⟩
  else if (← token).isAnyWord then return ⟨asName, ← rename, true, typeName.range⟩
  else
    let stop := if widens then second.range.stop else typeName.range.stop
    return ⟨typeName, second, false, ⟨start, stop⟩⟩

/-- An entry of a list of imports or exports.  `type` is a name if nothing but
    `as` follows it. -/
def entry (rename : Rule Tree) (widens : Bool) : Rule Entry := do
  let start ← here
  let isType ← atWord "type"
  let name ← moduleName
  if !(isType && (← token).isAnyWord) then return ← entryRest rename start name false
  let second ← anyIdent
  if second.text "value" = "as" then entryAfterTypeAs rename widens name second
  else entryRest rename start second true

/-- An entry of a list of imports; a string must be renamed. -/
def importEntry : Rule Tree := do
  let e ← entry newIdent true
  require (e.renamed.isPresent || e.name.kind == "Identifier")
  let (localName, imported) := if e.renamed.isPresent then (e.renamed, e.name) else (e.name, .null)
  return spanned "ImportSpecifier" e.span.start e.span.stop
    [("local", localName), ("imported", imported), ("isTypeOnly", .bool e.isType)]

/-- An entry of a list of exports. -/
def exportEntry : Rule Tree := do
  let e ← entry moduleName false
  return spanned "ExportSpecifier" e.span.start e.span.stop
    [("orig", e.name), ("exported", e.renamed), ("isTypeOnly", .bool e.isType)]

/-! ## Imports -/

/-- The module behind `import x =`. -/
def moduleReference : Rule Tree := do
  let start ← here
  if (← atWord "require") && (← next).isMark "(" then
    word "require"
    mark "("
    let source ← stringLiteral
    mark ")"
    node "TsExternalModuleReference" start [("expression", source)]
  else qualifiedName

/-- The rest of `import x = …` from `=` on. -/
def importEquals (start : Nat) (isExport isType : Bool) (name : Tree) : Rule Tree := do
  mark "="
  let reference ← moduleReference
  semicolon
  node "TsImportEqualsDeclaration" start
    [("isExport", .bool isExport), ("isTypeOnly", .bool isType), ("id", name),
      ("moduleRef", reference)]

/-- What an import starts with: whether it is of types only, its phase, and the name
    of what is imported as a whole. -/
structure ImportStart where
  isType : Bool
  phase : String
  name? : Option Tree

/-- An import whose first name may be the word for a phase. -/
def importPhase (isType : Bool) (name : Tree) : Rule ImportStart := do
  let w := name.text "value"
  let t ← token
  if w ≠ "source" ∧ w ≠ "defer" then return ⟨isType, "evaluation", name⟩
  else if t.isOneOf ["*", "\x7b"] then return ⟨isType, w, none⟩
  else if (t.isName && !t.isWord "from") || (← next).isWord "from" then
    return ⟨isType, w, some (← newIdent)⟩
  else return ⟨isType, "evaluation", name⟩

/-- The start of an import.  `type` and the words for phases are names if no other
    name follows them. -/
def importStart : Rule ImportStart := do
  if !(← token).isName then return ⟨false, "evaluation", none⟩
  let name ← ident
  if name.text "value" ≠ "type" then return ← importPhase false name
  let t ← token
  let following ← next
  if t.isOneOf ["*", "\x7b"] then return ⟨true, "evaluation", none⟩
  else if t.isName && (!t.isWord "from" || following.isWord "from" || following.isMark "=") then
    importPhase true (← newIdent)
  else return ⟨false, "evaluation", name⟩

/-- `* as n`, a list of imports, or nothing. -/
def importClauses (phase : String) : Rule (List Tree) := do
  let start ← here
  if (← atMark "*") && phase ≠ "source" then
    mark "*"
    word "as"
    return [← node "ImportNamespaceSpecifier" start [("local", ← newIdent)]]
  else if (← atMark "\x7b") && phase = "evaluation" then
    mark "\x7b"
    commaList "\x7d" importEntry
  else return []

/-- An import from `import` on. -/
def importItem (g : Grammar) : Rule Tree := do
  let start ← here
  word "import"
  let declaration (isType : Bool) (phase : String) (specifiers : List Tree)
      (source attributes : Tree) : Rule Tree :=
    node "ImportDeclaration" start
      [("phase", .str phase), ("specifiers", .list specifiers), ("source", source),
        ("typeOnly", .bool isType), ("with", attributes)]
  if (← token).isString then
    let source ← stringLiteral
    let attributes ← g.attributes?
    semicolon
    return ← declaration false "evaluation" [] source attributes
  let opening ← importStart
  let first ← match opening.name? with
    | none => pure []
    | some name =>
      if ← atMark "=" then return ← importEquals start false opening.isType name
      if !(← atWord "from") then mark ","
      pure [.node "ImportDefaultSpecifier" [("span", .span name.range), ("local", name)]]
  let more ← importClauses opening.phase
  let (source, attributes) ← g.sourceClause
  declaration opening.isType opening.phase (first ++ more) source attributes

/-! ## Exports -/

/-- The decorators here, unless there were some before. -/
def lateDecorators (g : Grammar) (ds : List Tree) : Rule (List Tree) := do
  if ← atMark "@" then
    let late ← g.decorators
    require ds.isEmpty
    return late
  else return ds

/-- The value or the declaration after `export default`. -/
def exportDefault (g : Grammar) (start : Nat) (ds : List Tree) : Rule Tree := do
  let ds ← g.lateDecorators ds
  let inner ← here
  let following ← next
  let declared (decl : Tree) : Rule Tree := node "ExportDefaultDeclaration" start [("decl", decl)]
  let isAbstract := (← atWord "abstract") && following.isWord "class" && !following.afterBreak
  if isAbstract || ((← atWord "abstract") && following.isWord "interface") then word "abstract"
  if ← atWord "class" then
    declared (← g.classDefinition "ClassExpression" false isAbstract inner ds [])
  else if ← atFunction then declared (← g.function FunctionForm.exported ds [])
  else
    let inner ← here
    if ← takeWord? "interface" then declared (← g.interfaceDeclaration inner false)
    else
      let e ← enclosed g.assignment
      semicolon
      node "ExportDefaultExpression" start [("expression", e)]

/-- The node of an export list. -/
def exportTree (start : Nat) (isType : Bool) (specifiers : List Tree) (source attributes : Tree) :
    Rule Tree :=
  node "ExportNamedDeclaration" start
    [("specifiers", .list specifiers), ("source", source), ("typeOnly", .bool isType),
      ("with", attributes)]

/-- `* from "m"` or `* as n from "m"`; the entry `* as n` counts as starting at
    `inner`. -/
def exportAll (g : Grammar) (start inner : Nat) (isType : Bool) : Rule Tree := do
  mark "*"
  if ← takeWord? "as" then
    let name ← moduleName
    let specifier ← node "ExportNamespaceSpecifier" inner [("name", name)]
    let (source, attributes) ← g.sourceClause
    exportTree start isType [specifier] source attributes
  else
    let (source, attributes) ← g.sourceClause
    node "ExportAllDeclaration" start
      [("source", source), ("typeOnly", .bool isType), ("with", attributes)]

/-- A list of exports in braces, with its source if there is one. -/
def exportList (g : Grammar) (start : Nat) (isType : Bool) : Rule Tree := do
  mark "\x7b"
  let specifiers ← commaList "\x7d" exportEntry
  if ← atWord "from" then
    let (source, attributes) ← g.sourceClause
    exportTree start isType specifiers source attributes
  else
    let _ ← takeEnd?
    exportTree start isType specifiers .null .null

/-- The declaration that is exported, if its first word tells it. -/
def exportedDeclaration? (g : Grammar) (ds : List Tree) : Rule (Option Tree) := do
  let start ← here
  if ← atWord "class" then return some (← g.declaredClass start ds false false)
  else if ← atFunction then return some (← g.declaredFunction start ds false)
  else if ← atConstEnumeration then return some (← g.constEnumeration start false)
  else if ← atVariables then return some (← g.variableDeclaration start false)
  else return none

/-- The declaration that is exported and starts with `declare` or with a word that
    can be a name too, if there is one. -/
def exportedByWord? (g : Grammar) (ds : List Tree) : Rule (Option Tree) := do
  let start ← here
  let declared ← if ← takeWord? "declare" then g.declared? start ds else pure none
  match declared with
  | some d => return some d
  | none =>
    let t ← token
    if !t.isAnyWord then return none
    attempt? (g.wordDeclaration? t.span.start ds false true t.spelling)

/-- An export of something that is not declared here, or of a declaration that a
    keyword opens. -/
def exportRest (g : Grammar) (start : Nat) (ds : List Tree) : Rule Tree := do
  let inner ← here
  let isType ← takeWord? "type"
  if !isType then
    if ← takeWord? "default" then return ← g.exportDefault start ds
  let ds ← g.lateDecorators ds
  let declaration ← if isType then pure none else g.exportedDeclaration? ds
  match declaration with
  | some d => node "ExportDeclaration" start [("declaration", d)]
  | none => if ← atMark "*" then g.exportAll start inner isType else g.exportList start isType

/-- An export from `export` on, with the decorators before it. -/
def exportItem (g : Grammar) (ds : List Tree) : Rule Tree := do
  let start ← here
  word "export"
  match ← g.exportedByWord? ds with
  | some d => node "ExportDeclaration" start [("declaration", d)]
  | none =>
    if ← takeWord? "import" then
      let isType := (← atWord "type") && (← next).isAnyWord
      if isType then word "type"
      importEquals start true isType (← anyIdent)
    else if ← takeMark? "=" then
      let e ← g.sequence
      semicolon
      node "TsExportAssignment" start [("expression", e)]
    else if ← takeWord? "as" then
      word "namespace"
      let name ← ident
      semicolon
      node "TsNamespaceExportDeclaration" start [("id", name)]
    else g.exportRest start ds

/-- A statement, import or export. -/
def anyItem (g : Grammar) : Rule Tree := do
  let start ← here
  let ds ← g.decorators
  if ← atWord "export" then g.exportItem ds
  else if ← atWord "import" then
    if (← next).isOneOf ["(", "."] then g.importExpression else g.importItem
  else g.statementFrom start ds true

end SoleExport.Grammar
