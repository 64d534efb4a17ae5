/-
  Layouts of statements, declarations and module items.

  The value of `return` and `throw` is put in parentheses if comments stand before
  it, since a line end there would end the statement.
-/
import SoleExport.Layout.Definitions
import SoleExport.Layout.Types

namespace SoleExport.Printer

open Layout

/-! ## Statements -/

/-- A value that a keyword announces.  In parentheses a comment before it cannot
    cut it off from the keyword. -/
def announced (p : Printer) (keyword : String) (value : Tree) : Layout :=
  text keyword ++ part (fun e => [.openIf e.range.start] ++ p.expr e ++ [.closeIf]) value ++
    semicolon

/-- `if (a) … else …` -/
def conditional (p : Printer) (t : Tree) : Layout :=
  let yes := t.get "consequent"
  word "if" ++ parenthesized (p.expr (t.get "test")) ++ [.blank] ++ p.statement yes ++
    part (fun no => (if yes.kind = "BlockStatement" then [.blank] else []) ++ word "else" ++
      p.statement no) (t.get "alternate")

/-- `try … catch … finally …` -/
def attempt (p : Printer) (t : Tree) : Layout :=
  word "try" ++ p.node (t.get "block") ++ part (fun h => [.blank] ++ p.node h) (t.get "handler") ++
    part (fun f => [.blank] ++ text "finally" ++ p.node f) (t.get "finalizer")

/-- `catch (e) …` -/
def handler (p : Printer) (t : Tree) : Layout :=
  word "catch" ++ part (fun e => parenthesized (p.pattern e)) (t.get "param") ++ [.blank] ++
    p.node (t.get "body")

/-- An expression as a statement.  The comments at the end of the statement stand
    behind its semicolon, even if the expression ends there too. -/
def expressionStatement (p : Printer) (t : Tree) : Layout :=
  [.hold t.range.stop] ++ p.expr (t.get "expression") ++ semicolon ++ [.release t.range.stop]

/-- `break` or `continue`, with its label if there is one. -/
def jump (p : Printer) (keyword : String) (t : Tree) : Layout :=
  text keyword ++ part (fun l => [.blank] ++ p.node l) (t.get "label") ++ semicolon

/-- A statement that declares nothing. -/
def plainStatement? (p : Printer) (t : Tree) : Option Layout :=
  match t.kind with
  | "EmptyStatement" => some semicolon
  | "ExpressionStatement" => some (p.expressionStatement t)
  | "ReturnStatement" => some (p.announced "return" (t.get "argument"))
  | "ThrowStatement" => some (p.announced "throw" (t.get "argument"))
  | "IfStatement" => some (p.conditional t)
  | "TryStatement" => some (p.attempt t)
  | "CatchClause" => some (p.handler t)
  | "BreakStatement" => some (p.jump "break" t)
  | "ContinueStatement" => some (p.jump "continue" t)
  | "DebuggerStatement" => some (text "debugger" ++ semicolon)
  | "LabeledStatement" => some (p.node (t.get "label") ++ word ":" ++ p.statement (t.get "body"))
  | "WithStatement" =>
    some (word "with" ++ parenthesized (p.expr (t.get "object")) ++ p.statement (t.get "body"))
  | _ => none

/-! ## Declarations -/

/-- A module item with the comments at its end, and the end of its line. -/
def item (p : Printer) (t : Tree) : Layout := p.node t ++ [.trailing t.range.stop, .line]

/-- `const a = 1, b = 2` -/
def variableDeclaration (p : Printer) (t : Tree) : Layout :=
  wordIf (t.flag "declare") "declare" ++ word (t.text "kind") ++ p.list (t.seq "declarations")

/-- `using a = 1` -/
def usingDeclaration (p : Printer) (t : Tree) : Layout :=
  wordIf (t.flag "isAwait") "await" ++ word "using" ++ p.list (t.seq "decls")

/-- `interface I extends J` with its members. -/
def interface (p : Printer) (t : Tree) : Layout :=
  let extended := t.seq "extends"
  wordIf (t.flag "declare") "declare" ++ word "interface" ++ p.node (t.get "id") ++
    part p.node (t.get "typeParams") ++
    (if extended.isEmpty then [] else spaced "extends" ++ p.list extended) ++
    [.blank] ++ p.node (t.get "body")

/-- `enum E` with its members. -/
def enumeration (p : Printer) (t : Tree) : Layout :=
  wordIf (t.flag "declare") "declare" ++ wordIf (t.flag "isConst") "const" ++ word "enum" ++
    p.node (t.get "id") ++ [.blank] ++ openBrace ++
    lines (text ",") (column p.node (t.seq "members")) ++ closeBrace

/-- The body of a namespace: its items, the rest of a dotted name, or nothing. -/
def namespaceBody (p : Printer) : Tree → Layout
  | .null => []
  | b =>
    if b.kind = "TsNamespaceDeclaration" then text "." ++ p.node b else [.blank] ++ p.node b

/-- `namespace N`, `module "m"` or `global` with its items. -/
def namespaceDeclaration (p : Printer) (t : Tree) : Layout :=
  wordIf (t.flag "declare") "declare" ++
    (if t.flag "global" then []
      else word (if t.flag "namespace" then "namespace" else "module")) ++
    p.node (t.get "id") ++ p.namespaceBody (t.get "body")

/-- A declaration, or a part of one. -/
def declaration? (p : Printer) (t : Tree) : Option Layout :=
  match t.kind with
  | "VariableDeclaration" => some (p.variableDeclaration t ++ semicolon)
  | "VariableDeclarator" => some (p.pattern (t.get "id") ++ p.initial (t.get "init"))
  | "UsingDeclaration" => some (p.usingDeclaration t ++ semicolon)
  | "TsInterfaceDeclaration" => some (p.interface t)
  | "TsInterfaceBody" => some (p.members (t.seq "body"))
  | "TsTypeAliasDeclaration" =>
    some (wordIf (t.flag "declare") "declare" ++ word "type" ++ p.node (t.get "id") ++
      part p.node (t.get "typeParams") ++ spaced "=" ++ p.node (t.get "typeAnnotation") ++
      semicolon)
  | "TsEnumDeclaration" => some (p.enumeration t)
  | "TsEnumMember" => some (p.node (t.get "id") ++ p.initial (t.get "init"))
  | "TsModuleDeclaration" => some (p.namespaceDeclaration t)
  | "TsNamespaceDeclaration" => some (p.node (t.get "id") ++ p.namespaceBody (t.get "body"))
  | "TsModuleBlock" => some (openBrace ++ lines [] ((t.seq "body").map p.item) ++ closeBrace)
  | _ => none

/-! ## Loops -/

/-- What a loop starts from or assigns to: variables, a pattern or an expression. -/
def loopHead (p : Printer) (t : Tree) : Layout :=
  match t.kind with
  | "VariableDeclaration" => [.leading t.range.start] ++ p.variableDeclaration t
  | "UsingDeclaration" => [.leading t.range.start] ++ p.usingDeclaration t
  | _ => p.pattern t

/-- `for(a; b; c)…` -/
def loopWhile (p : Printer) (t : Tree) : Layout :=
  let condition := part fun e => [.blank] ++ p.expr e
  text "for" ++ parenthesized (part p.loopHead (t.get "init") ++ semicolon ++
    condition (t.get "test") ++ semicolon ++ condition (t.get "update")) ++
    p.statement (t.get "body")

/-- `for(a in b)…` -/
def loopIn (p : Printer) (t : Tree) : Layout :=
  text "for" ++ parenthesized (p.loopHead (t.get "left") ++ spaced "in" ++
    p.expr (t.get "right")) ++ p.statement (t.get "body")

/-- `for (a of b)…` -/
def loopOf (p : Printer) (t : Tree) : Layout :=
  word "for" ++ wordIf (t.flag "isAwait") "await" ++ parenthesized (p.loopHead (t.get "left") ++
    spaced "of" ++ p.expr (t.get "right")) ++ p.statement (t.get "body")

/-- The statements of a case, on lines of their own. -/
def caseBody (p : Printer) (ts : List Tree) : Layout :=
  if ts.isEmpty then []
  else [.line, .indent] ++ separated [.line] (ts.map p.statement) ++ [.dedent]

/-- A case of a `switch`. -/
def switchCase (p : Printer) (t : Tree) : Layout :=
  (match t.get "test" with
    | .null => text "default"
    | e => word "case" ++ p.expr e) ++ text ":" ++ p.caseBody (t.seq "consequent")

/-- A loop or a `switch`, or a part of one. -/
def loop? (p : Printer) (t : Tree) : Option Layout :=
  match t.kind with
  | "ForStatement" => some (p.loopWhile t)
  | "ForInStatement" => some (p.loopIn t)
  | "ForOfStatement" => some (p.loopOf t)
  | "WhileStatement" =>
    some (text "while" ++ parenthesized (p.expr (t.get "test")) ++ p.statement (t.get "body"))
  | "DoWhileStatement" =>
    some (word "do" ++ p.statement (t.get "body") ++ word "while" ++
      parenthesized (p.expr (t.get "test")))
  | "SwitchStatement" =>
    some (text "switch" ++ parenthesized (p.expr (t.get "discriminant")) ++ openBrace ++
      lines [] ((t.seq "cases").map p.node) ++ closeBrace)
  | "SwitchCase" => some (p.switchCase t)
  | _ => none

/-! ## Imports and exports -/

/-- Names in braces, on one line. -/
def nameList (p : Printer) (ts : List Tree) : Layout :=
  openBrace ++ [.blank] ++ (if ts.isEmpty then [] else p.list ts ++ [.blank]) ++ closeBrace

/-- `from "m"` and what is asked of the source. -/
def source (p : Printer) (t : Tree) : Layout :=
  p.node (t.get "source") ++ part (fun w => spaced "with" ++ p.node w) (t.get "with")

/-- `import … from "m"` -/
def importDeclaration (p : Printer) (t : Tree) : Layout :=
  let specifiers := t.seq "specifiers"
  let named := specifiers.filter fun s => s.kind == "ImportSpecifier"
  let whole := (specifiers.filter fun s => s.kind != "ImportSpecifier").map p.node
  let clauses := whole ++ (if named.isEmpty then [] else [p.nameList named])
  let phase := t.text "phase"
  word "import" ++ wordIf (t.flag "typeOnly") "type" ++
    wordIf (phase = "source" ∨ phase = "defer") phase ++
    (if clauses.isEmpty then [] else commas clauses ++ spaced "from") ++ p.source t ++ semicolon

/-- `export { … }` -/
def exportNamed (p : Printer) (t : Tree) : Layout :=
  let specifiers := t.seq "specifiers"
  let named := specifiers.filter fun s => s.kind != "ExportNamespaceSpecifier"
  let whole := (specifiers.filter fun s => s.kind == "ExportNamespaceSpecifier").map p.node
  let list := if named.isEmpty && !whole.isEmpty then [] else [p.nameList named]
  word "export" ++ wordIf (t.flag "typeOnly") "type" ++ commas (whole ++ list) ++
    part (fun _ => spaced "from" ++ p.source t) (t.get "source") ++ semicolon

/-- An import or export entry. -/
def specifier? (p : Printer) (t : Tree) : Option Layout :=
  match t.kind with
  | "ImportDefaultSpecifier" => some (p.node (t.get "local"))
  | "ImportNamespaceSpecifier" => some (word "*" ++ word "as" ++ p.node (t.get "local"))
  | "ImportSpecifier" =>
    some (wordIf (t.flag "isTypeOnly") "type" ++
      part (fun i => p.node i ++ spaced "as") (t.get "imported") ++ p.node (t.get "local"))
  | "ExportNamespaceSpecifier" => some (word "*" ++ word "as" ++ p.node (t.get "name"))
  | "ExportDefaultSpecifier" => some (p.node (t.get "exported"))
  | "ExportSpecifier" =>
    some (wordIf (t.flag "isTypeOnly") "type" ++ p.node (t.get "orig") ++
      part (fun e => spaced "as" ++ p.node e) (t.get "exported"))
  | _ => none

/-- `export` before a declaration; the decorators of a class stand before both. -/
def exportDeclaration (p : Printer) (t : Tree) : Layout :=
  match t.get "declaration" with
  | .node "ClassDeclaration" fields =>
    let decorated : Tree := .node "ClassDeclaration" fields
    let bare : Tree := .node "ClassDeclaration" (Tree.without ["decorators"] fields)
    (decorated.seq "decorators").flatMap p.node ++ word "export" ++ p.node bare
  | d => word "export" ++ p.node d

/-- An import or export. -/
def moduleItem? (p : Printer) (t : Tree) : Option Layout :=
  match t.kind with
  | "ImportDeclaration" => some (p.importDeclaration t)
  | "ExportDeclaration" => some (p.exportDeclaration t)
  | "ExportNamedDeclaration" => some (p.exportNamed t)
  | "ExportDefaultDeclaration" => some (word "export" ++ word "default" ++ p.node (t.get "decl"))
  | "ExportDefaultExpression" =>
    some (word "export" ++ word "default" ++ p.expr (t.get "expression") ++ semicolon)
  | "ExportAllDeclaration" =>
    some (word "export" ++ wordIf (t.flag "typeOnly") "type" ++ text "*" ++ spaced "from" ++
      p.source t ++ semicolon)
  | "TsExportAssignment" =>
    some (text "export" ++ spaced "=" ++ p.expr (t.get "expression"))
  | "TsNamespaceExportDeclaration" => some (text "export" ++ spaced "=" ++ p.node (t.get "id"))
  | "TsImportEqualsDeclaration" =>
    some (wordIf (t.flag "isExport") "export" ++ word "import" ++
      wordIf (t.flag "isTypeOnly") "type" ++ p.node (t.get "id") ++ spaced "=" ++
      p.node (t.get "moduleRef") ++ semicolon)
  | "TsExternalModuleReference" =>
    some (text "require" ++ parenthesized (p.node (t.get "expression")))
  | _ => none

end SoleExport.Printer
