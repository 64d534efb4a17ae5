/-
  The grammar of statements and declarations.

  Words such as `type`, `namespace` and `declare` can be names too.  Where they do
  not open a declaration by what follows them directly, they are read as an
  expression, and what comes behind it decides (`declarationAfter?`).
-/
import SoleExport.Grammar.Expressions

namespace SoleExport.Grammar

open Rule

/-! ## Variables -/

/-- A variable or pattern with its first value.  Only a name, a constant or what
    exists elsewhere can do without one. -/
def declarator (g : Grammar) (kind : String) (inLoop : Bool) : Rule Tree := do
  let start ← here
  let pattern ← g.bindingPattern (kind == "var")
  let definite ← if pattern.kind = "Identifier" then takeMark? "!" else pure false
  let typing ← g.typing?
  let pattern := withField "typeAnnotation" typing pattern
  let init ← if inLoop && (← token).isWordOf ["in", "of"] then pure .null
    else if ← takeMark? "=" then g.assignment
    else do
      require (pattern.kind == "Identifier" || kind == "const" || (← context).isAmbient)
      pure .null
  node "VariableDeclarator" start
    [("id", pattern), ("init", init), ("definite", .bool definite)]

/-- Variables with commas between them; a semicolon ends the list even behind a
    comma. -/
def declarators (g : Grammar) (kind : String) (inLoop : Bool) : Rule (List Tree) := do
  let each := if inLoop && kind == "var" then g.declarator kind inLoop
    else within (fun c => { c with takesIn := true }) (g.declarator kind inLoop)
  if ← atMark ";" then return []
  let first ← each
  let more ← many do
    if !(← takeMark? ",") || (← atMark ";") then return none
    return some (← each)
  return first :: more

/-- Skip what keeps a statement from ending. -/
def skipToEnd (g : Grammar) : Rule Unit := do
  if ← takeEnd? then return
  let _ ← recover g.expressions
  let _ ← many do
    if ← takeEnd? then return none
    return some (← take)

/-- The node of a declaration of variables. -/
def variablesTree (start : Nat) (kind : String) (declare : Bool) (declarations : List Tree) :
    Rule Tree :=
  node "VariableDeclaration" start
    [scope, ("kind", .str kind), ("declare", .bool declare),
      ("declarations", .list declarations)]

/-- `var`, `let` or `const` with its variables. -/
def variableDeclaration (g : Grammar) (start : Nat) (declare : Bool) : Rule Tree := do
  let t ← take
  let declarations ← g.declarators t.spelling false
  g.skipToEnd
  variablesTree start t.spelling declare declarations

/-- Whether a declaration of variables comes next. -/
def atVariables : Rule Bool := do
  let following ← next
  if ← atWord "let" then return following.isAnyWord || following.isOneOf ["[", "\x7b"]
  return (← token).isWordOf ["var", "const"]

/-- `using x = …`, after `await` if the flag is set. -/
def usingDeclaration (g : Grammar) (start : Nat) (isAwait : Bool) : Rule Tree := do
  word "using"
  let declarations ← g.declarators "var" false
  semicolon
  node "UsingDeclaration" start
    [("isAwait", .bool isAwait), ("decls", .list declarations)]

/-- Whether the token is followed by the name of a variable that is given up at the
    end of its block. -/
def mayBeUsing (t following : Token) : Bool :=
  t.isWord "using" && following.isName && !following.afterBreak

/-! ## Declarations of types and namespaces -/

/-- An interface, read from its name on. -/
def interfaceDeclaration (g : Grammar) (start : Nat) (declare : Bool) : Rule Tree := do
  let name ← anyIdent
  let typeParams ← g.typeParameters?
  let extended ← if ← takeWord? "extends" then g.heritageTypes else pure []
  if ← atWord "extends" then
    let _ ← many do
      if (← atMark "\x7b") || (← token).kind == .eof then return none
      return some (← take)
  let bodyStart ← here
  let members ← g.typeMembers
  let body ← node "TsInterfaceBody" bodyStart [("body", members)]
  node "TsInterfaceDeclaration" start
    [("id", name), ("declare", .bool declare), ("typeParams", typeParams),
      ("extends", .list extended), ("body", body)]

/-- A name for a type, read from the name on. -/
def typeAlias (g : Grammar) (start : Nat) (declare : Bool) : Rule Tree := do
  let name ← anyIdent
  let typeParams ← g.typeParameters?
  mark "="
  let type ← g.type
  semicolon
  node "TsTypeAliasDeclaration" start
    [("declare", .bool declare), ("id", name), ("typeParams", typeParams), ("typeAnnotation", type)]

/-- The name of a member of an enumeration in brackets: a text, or none. -/
def enumComputedName (g : Grammar) : Rule Tree := do
  let start ← here
  mark "["
  let e ← g.sequence
  mark "]"
  if e.kind = "StringLiteral" then return e
  match e.kind, e.seq "quasis" with
  | "TemplateLiteral", [chunk] =>
    return .node "StringLiteral"
      [("span", .span chunk.range), ("value", chunk.get "cooked"), ("raw", .null)]
  | _, _ => return identTree ⟨.word, "", ⟨start, ← last⟩, false, []⟩ false

/-- The name of a member of an enumeration. -/
def enumName (g : Grammar) : Rule Tree := do
  let t ← token
  if t.isMark "[" then g.enumComputedName
  else
    match t.kind with
    | .string _ => stringLiteral
    | .number value =>
      let _ ← take
      let quoted := "\"" ++ t.spelling ++ "\""
      return .node "StringLiteral"
        [("span", .span t.span), ("value", value), ("raw", .str quoted)]
    | _ => anyIdent

/-- A member of an enumeration, with what separates it from the next one. -/
def enumMember (g : Grammar) : Rule Tree := do
  let start ← here
  let name ← g.enumName
  let init ← if ← takeMark? "=" then g.assignment else pure .null
  let isSeparated := init.isPresent || (← atOneOf [",", "\x7d"])
  let member ← node "TsEnumMember" start [("id", name), ("init", init)]
  if !isSeparated then
    let _ ← take
  else if !(← takeMark? ",") then require (← atMark "\x7d")
  return member

/-- An enumeration, read from its name on. -/
def enumeration (g : Grammar) (start : Nat) (isConst declare : Bool) : Rule Tree := do
  let name ← anyIdent
  mark "\x7b"
  let members ← enclosed <| many do
    if ← takeMark? "\x7d" then return none
    return some (← g.enumMember)
  node "TsEnumDeclaration" start
    [("declare", .bool declare), ("isConst", .bool isConst), ("id", name),
      ("members", .list members)]

/-- The items of a namespace in braces. -/
def namespaceBlock (g : Grammar) : Rule Tree := do
  let start ← here
  let items ← braced g.moduleItem
  node "TsModuleBlock" start [("body", .list items)]

/-- The rest of a dotted namespace: further names, then the items. -/
def namespaceBody (g : Grammar) : Rule Tree := do
  let names ← many do
    if ← takeMark? "." then
      let t ← token
      return some (t, ← anyIdent)
    else return none
  let block ← g.namespaceBlock
  let stop ← last
  return names.foldr (fun (t, name) body =>
    spanned "TsNamespaceDeclaration" t.span.start stop
      [("declare", .bool false), ("global", .bool false), ("id", name), ("body", body)]) block

/-- The node of a namespace or of a declared module. -/
def namespaceTree (start : Nat) (declare isGlobal isNamespace : Bool) (name body : Tree) :
    Rule Tree :=
  node "TsModuleDeclaration" start
    [("declare", .bool declare), ("global", .bool isGlobal), ("namespace", .bool isNamespace),
      ("id", name), ("body", body)]

/-- A namespace, read from its name on. -/
def namespaceDeclaration (g : Grammar) (start : Nat) (declare isNamespace : Bool) : Rule Tree := do
  let name ← anyIdent
  namespaceTree start declare false isNamespace name (← g.namespaceBody)

/-- `global` or `"m"`, with its items if there are any. -/
def moduleDeclaration (g : Grammar) (start : Nat) (declare : Bool) : Rule Tree := do
  let isGlobal ← atWord "global"
  let name ← if isGlobal then anyIdent else stringLiteral
  let body ← if ← atMark "\x7b" then g.namespaceBlock
    else do
      semicolon
      pure .null
  namespaceTree start declare isGlobal false name body

/-! ## Declarations -/

/-- A class that is declared, from `class` on. -/
def declaredClass (g : Grammar) (start : Nat) (ds : List Tree) (isAbstract declare : Bool) :
    Rule Tree :=
  g.classDefinition "ClassDeclaration" true isAbstract start ds [("declare", .bool declare)]

/-- A function that is declared. -/
def declaredFunction (g : Grammar) (start : Nat) (ds : List Tree) (declare : Bool) : Rule Tree := do
  let f ← g.function FunctionForm.declared ds [("declare", .bool declare)]
  return startingAt start f

/-- `const enum`, from `const` on. -/
def constEnumeration (g : Grammar) (start : Nat) (declare : Bool) : Rule Tree := do
  word "const"
  word "enum"
  g.enumeration start true declare

/-- Whether `const enum` comes next. -/
def atConstEnumeration : Rule Bool := return (← atWord "const") && (← next).isWord "enum"

/-- The declaration that the given word opens, if it does.  If the word is still
    ahead, it opens one whatever follows. -/
def wordDeclaration? (g : Grammar) (start : Nat) (ds : List Tree) (declare ahead : Bool)
    (w : String) : Rule (Option Tree) := do
  let before ← token
  if !(["abstract", "enum", "interface", "module", "namespace", "type"].contains w) then return none
  if w = "module" && before.afterBreak then return none
  if ahead then
    let _ ← take
  let t ← token
  let isNamed := ahead || t.isName
  match w with
  | "abstract" =>
    if !(ahead || (t.isWord "class" && !t.afterBreak)) then return none
    return some (← g.declaredClass start ds true declare)
  | "enum" => if isNamed then return some (← g.enumeration start false declare) else return none
  | "interface" =>
    if isNamed then return some (← g.interfaceDeclaration start declare) else return none
  | "module" =>
    if t.isString then return some (← g.moduleDeclaration start declare)
    else if isNamed then return some (← g.namespaceDeclaration start declare false)
    else return none
  | "namespace" =>
    if isNamed then return some (← g.namespaceDeclaration start declare true) else return none
  | _ =>
    if !(ahead || (t.isName && !t.afterBreak)) then return none
    return some (← g.typeAlias start declare)

/-- The declaration after `declare`, if there is one. -/
def declared? (g : Grammar) (start : Nat) (ds : List Tree) : Rule (Option Tree) :=
  within (fun c => { c with isAmbient := true }) do
    let t ← token
    if t.isWord "function" then return some (← g.declaredFunction start ds true)
    else if t.isWord "class" then return some (← g.declaredClass start ds false true)
    else if ← atConstEnumeration then return some (← g.constEnumeration start true)
    else if t.isWordOf ["const", "var", "let"] then
      return some (← g.variableDeclaration start true)
    else if t.isWord "global" then return some (← g.moduleDeclaration start true)
    else if t.isAnyWord then g.wordDeclaration? start ds true true t.spelling
    else return none

/-- The declaration that goes on after a name that was read as an expression, if
    there is one. -/
def declarationAfter? (g : Grammar) (start : Nat) (ds : List Tree) (name : Tree) :
    Rule (Option Tree) := do
  match name.text "value" with
  | "declare" => g.declared? start ds
  | "global" =>
    if ← atMark "\x7b" then
      return some (← namespaceTree start false true false name (← g.namespaceBlock))
    else return none
  | w =>
    if w = "static" || w = "abstract" then
      if ← takeWord? "interface" then return some (← g.interfaceDeclaration start false)
    g.wordDeclaration? start ds false false w

/-! ## Choices and loops -/

/-- An expression in parentheses after a keyword. -/
def condition (g : Grammar) : Rule Tree := do
  mark "("
  let e ← g.sequence
  mark ")"
  return e

/-- `if (a) … else …`; something else may stand in the place of `)`. -/
def ifStatement (g : Grammar) : Rule Tree := do
  let start ← here
  word "if"
  mark "("
  let test ← g.sequence
  if !(← takeMark? ")") && !(← atMark "\x7b") then
    require ((← token).kind != .eof)
    let _ ← take
  let yes ← g.statement false
  let no ← if ← takeWord? "else" then g.statement false else pure .null
  node "IfStatement" start [("test", test), ("consequent", yes), ("alternate", no)]

/-- `while (a) …` -/
def whileStatement (g : Grammar) : Rule Tree := do
  let start ← here
  word "while"
  let test ← g.condition
  node "WhileStatement" start [("test", test), ("body", ← g.statement false)]

/-- `with (a) …` -/
def withStatement (g : Grammar) : Rule Tree := do
  let start ← here
  word "with"
  let object ← g.condition
  node "WithStatement" start [("object", object), ("body", ← g.statement false)]

/-- `do … while (a)` -/
def doStatement (g : Grammar) : Rule Tree := do
  let start ← here
  word "do"
  let body ← g.statement false
  word "while"
  let test ← g.condition
  let _ ← takeEnd?
  node "DoWhileStatement" start [("test", test), ("body", body)]

/-- A case of a `switch`. -/
def switchCase (g : Grammar) : Rule Tree := do
  let start ← here
  let test ← if ← takeWord? "case" then g.sequence
    else do
      word "default"
      pure .null
  mark ":"
  let stmts ← many do
    let t ← token
    if t.isWordOf ["case", "default"] || t.isMark "\x7d" || t.kind == .eof then return none
    return some (← g.statement true)
  node "SwitchCase" start [("test", test), ("consequent", .list stmts)]

/-- `switch (a) …`; one case at most is the default. -/
def switchStatement (g : Grammar) : Rule Tree := do
  let start ← here
  word "switch"
  let value ← g.condition
  mark "\x7b"
  let cases ← many do
    if ← takeMark? "\x7d" then return none
    return some (← g.switchCase)
  require ((cases.filter fun c => !(c.get "test").isPresent).length ≤ 1)
  node "SwitchStatement" start [("discriminant", value), ("cases", .list cases)]

/-- The variables of a loop, up to what follows them. -/
def loopVariables (g : Grammar) : Rule Tree := do
  let start ← here
  let t ← take
  let isBare ← lookAhead do
    require ((← token).isWordOf ["in", "of"])
    let _ ← take
    let _ ← g.assignment
    atMark ")"
  let declarations ← if isBare then pure [] else g.declarators t.spelling true
  variablesTree start t.spelling false declarations

/-- The rest of a loop over the values or keys of something. -/
def loopOver (g : Grammar) (start : Nat) (isAwait : Bool) (left : Tree) : Rule Tree := do
  let isOf ← takeWord? "of"
  if !isOf then
    word "in"
    require (!isAwait)
  let right ← if isOf then enclosed g.assignment else g.sequence
  mark ")"
  let body ← g.statement false
  if isOf then
    node "ForOfStatement" start
      [("isAwait", .bool isAwait), ("left", left), ("right", right), ("body", body)]
  else node "ForInStatement" start [("left", left), ("right", right), ("body", body)]

/-- The rest of a loop with a condition, after the first semicolon. -/
def loopWhile (g : Grammar) (start : Nat) (isAwait : Bool) (init : Tree) : Rule Tree := do
  mark ";"
  require (!isAwait)
  let test ← if ← atMark ";" then pure .null else g.sequence
  mark ";"
  let update ← if ← atMark ")" then pure .null else g.sequence
  mark ")"
  let body ← g.statement false
  node "ForStatement" start
    [("init", init), ("test", test), ("update", update), ("body", body)]

/-- `for (…) …` -/
def forStatement (g : Grammar) : Rule Tree := do
  let start ← here
  word "for"
  let isAwait ← takeWord? "await"
  mark "("
  if ← atMark ";" then return ← g.loopWhile start isAwait .null
  let isDeclared ← atVariables
  let left ← within (fun c => { c with takesIn := false, colonAwaited := false })
    (if isDeclared then g.loopVariables else g.expressions)
  if (← token).isWordOf ["in", "of"] then
    let left ← if isDeclared then pure left else given (toPattern? .target left)
    g.loopOver start isAwait left
  else g.loopWhile start isAwait left

/-! ## Other statements -/

/-- `return`, with its value if there is one. -/
def returnStatement (g : Grammar) : Rule Tree := do
  let start ← here
  word "return"
  let value ← if ← atEnd then pure .null else g.sequence
  semicolon
  node "ReturnStatement" start [("argument", value)]

/-- `throw` with its value on the same line. -/
def throwStatement (g : Grammar) : Rule Tree := do
  let start ← here
  word "throw"
  require !(← token).afterBreak
  let value ← g.sequence
  semicolon
  node "ThrowStatement" start [("argument", value)]

/-- `break` or `continue`, with its label if there is one. -/
def jumpStatement : Rule Tree := do
  let start ← here
  let t ← take
  let label ← if ← takeEnd? then pure .null
    else do
      let label ← ident
      semicolon
      pure label
  node (if t.isWord "break" then "BreakStatement" else "ContinueStatement") start
    [("label", label)]

/-- `catch (e) …`, if there is one. -/
def handler? (g : Grammar) : Rule Tree := do
  let start ← here
  if !(← takeWord? "catch") then return .null
  let param ← if ← takeMark? "(" then do
      let pattern ← g.bindingPattern true
      let typing ← g.typing?
      mark ")"
      pure (withField "typeAnnotation" typing pattern)
    else pure .null
  let body ← g.block
  node "CatchClause" start [("param", param), ("body", body)]

/-- `finally …`, if there is one. -/
def finalizer? (g : Grammar) : Rule Tree := do
  if ← takeWord? "finally" then g.block else return .null

/-- `try … catch … finally …` -/
def tryStatement (g : Grammar) : Rule Tree := do
  let start ← here
  word "try"
  let body ← g.block
  let handler ← g.handler?
  let finalizer ← g.finalizer?
  node "TryStatement" start [("block", body), ("handler", handler), ("finalizer", finalizer)]

/-- `catch` or `finally` without `try`: an invalid statement in its place. -/
def strayHandler (g : Grammar) : Rule Tree := do
  let t ← token
  let _ ← recover g.handler?
  let _ ← recover g.finalizer?
  let e := invalid t.span.start t.span.stop
  return spanned "ExpressionStatement" t.span.start t.span.stop [("expression", e)]

/-- A statement after a label. -/
def labelled (g : Grammar) (start : Nat) (label : Tree) : Rule Tree := do
  node "LabeledStatement" start [("label", label), ("body", ← g.statement false)]

/-- An expression as a statement, or what it turns out to be the start of.  An
    operator behind what seemed to be the whole takes it as its operand. -/
def expressionStatement (g : Grammar) (start : Nat) (ds : List Tree) : Rule Tree := do
  let e ← g.sequence
  let isName := e.kind == "Identifier"
  if isName then
    if ← takeMark? ":" then return ← g.labelled e.range.start e
  let declaration ← if isName then g.declarationAfter? e.range.start ds e else pure none
  match declaration with
  | some t => return t
  | none =>
    if ← takeEnd? then node "ExpressionStatement" start [("expression", e)]
    else
      require (← operator).isOperator
      let whole ← g.operations 0 e
      node "ExpressionStatement" start [("expression", whole)]

/-! ## Statements -/

/-- A declaration that its first words tell, if it is one. -/
def plainDeclaration? (g : Grammar) (start : Nat) (ds : List Tree) : Rule (Option Tree) := do
  let t ← token
  let following ← next
  let isNamed := following.isAnyWord && !following.afterBreak
  let inner := t.span.start
  if ← atConstEnumeration then return some (← g.constEnumeration start false)
  else if ← atFunction then return some (← g.declaredFunction inner ds false)
  else if t.isWord "class" then return some (← g.declaredClass start ds false false)
  else if t.isWord "interface" && isNamed then
    let _ ← take
    return some (← g.interfaceDeclaration inner false)
  else if t.isWord "type" && isNamed then
    let _ ← take
    return some (← g.typeAlias inner false)
  else if t.isWord "enum" && isNamed then
    let _ ← take
    return some (← g.enumeration start false false)
  else return none

/-- A declaration of variables, if one comes next and may stand here. -/
def variables? (g : Grammar) (start : Nat) (mayDeclare : Bool) : Rule (Option Tree) := do
  let t ← token
  if t.isWord "var" then return some (← g.variableDeclaration start false)
  if !mayDeclare then return none
  if ← atVariables then return some (← g.variableDeclaration start false)
  let following ← next
  if mayBeUsing t following then return some (← g.usingDeclaration start false)
  if !(t.isWord "await" && following.isWord "using") then return none
  attempt do
    word "await"
    require (mayBeUsing (← token) (← next))
    g.usingDeclaration start true

/-- A statement that its first word or mark tells. -/
def keywordStatement? (g : Grammar) : Rule (Option Tree) := do
  let start ← here
  let t ← token
  if t.isMark "\x7b" then return some (← g.block)
  if t.isMark ";" then
    mark ";"
    return some (← node "EmptyStatement" start [])
  if !t.isAnyWord then return none
  match t.spelling with
  | "if" => return some (← g.ifStatement)
  | "return" => return some (← g.returnStatement)
  | "throw" => return some (← g.throwStatement)
  | "try" => return some (← g.tryStatement)
  | "catch" | "finally" => return some (← g.strayHandler)
  | "for" => return some (← g.forStatement)
  | "while" => return some (← g.whileStatement)
  | "do" => return some (← g.doStatement)
  | "switch" => return some (← g.switchStatement)
  | "with" => return some (← g.withStatement)
  | "break" | "continue" => return some (← jumpStatement)
  | "debugger" =>
    word "debugger"
    semicolon
    return some (← node "DebuggerStatement" start [])
  | _ => return none

/-- The word `interface` at the end of a line, which is no declaration. -/
def loneInterface : Rule Tree := do
  let t ← token
  let name ← anyIdent
  let _ ← takeEnd?
  node "ExpressionStatement" t.span.start [("expression", name)]

/-- A statement that starts at the given position, where its decorators stood; it may
    declare something if the flag is set. -/
def statementFrom (g : Grammar) (start : Nat) (ds : List Tree) (mayDeclare : Bool) :
    Rule Tree := do
  if let some t ← g.plainDeclaration? start ds then return t
  if let some t ← g.variables? start mayDeclare then return t
  if let some t ← g.keywordStatement? then return t
  if (← atWord "interface") && (← next).afterBreak then loneInterface
  else g.expressionStatement start ds

/-- `import(…)` or `import.meta` at the start of a statement. -/
def importExpression (g : Grammar) : Rule Tree := do
  let start ← here
  require ((← next).isOneOf ["(", "."])
  let e ← g.sequence
  let _ ← takeEnd?
  node "ExpressionStatement" start [("expression", e)]

/-- A statement; it may be a declaration if the flag is set. -/
def anyStatement (g : Grammar) (mayDeclare : Bool) : Rule Tree := do
  let start ← here
  let ds ← g.decorators
  let t ← token
  if t.isWord "import" then g.importExpression
  else
    require (!t.isWord "export")
    g.statementFrom start ds mayDeclare

end SoleExport.Grammar
