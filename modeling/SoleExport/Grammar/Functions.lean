/-
  The grammar of functions.

  Blocks and parameters are shared by all that can be called.  Whether a
  parenthesis opens the parameters of an arrow function shows only behind it, so
  what it encloses is read as a list of items that can still become expressions or
  parameters (`parenItem`, `itemsToParameters?`).
-/
import SoleExport.Grammar.Uses

namespace SoleExport.Grammar

open Rule

/-! ## Blocks -/

/-- Things between braces, up to the closing brace or the end of the text. -/
def braced (item : Rule Tree) : Rule (List Tree) := do
  mark "\x7b"
  many do
    if ← takeMark? "\x7d" then return none
    if (← token).kind == .eof then return none
    return some (← item)

/-- A block of statements. -/
def block (g : Grammar) : Rule Tree := do
  let start ← here
  let stmts ← enclosed (braced (g.statement true))
  node "BlockStatement" start [scope, ("stmts", .list stmts)]

/-! ## Functions -/

/-- Read a part of a function. -/
def inFunction {α : Type} (isAsync isGenerator : Bool) (r : Rule α) : Rule α :=
  within (fun c => { c with isAsync, isGenerator }) r

/-- A parameter, with its decorators. -/
def parameter (g : Grammar) : Rule Tree := do
  let start ← here
  let ds ← g.decorators
  let pattern ← g.anyParameter
  node "Parameter" start [("decorators", .list ds), ("pat", pattern)]

/-- The parameters of a function, each read by the given rule. -/
def parameterList (each : Rule Tree) : Rule Tree := do
  mark "("
  return .list (← commaList ")" each)

/-- The body of a function, or the end of a function without one. -/
def functionBody (g : Grammar) : Rule Tree := do
  if ← atMark "\x7b" then g.block
  else
    semicolon
    return .null

/-- The fields of a function that is read from its type parameters on. -/
def functionFields (g : Grammar) (isAsync isGenerator : Bool) (ds : List Tree) : Rule Fields :=
  enclosed <| inFunction isAsync isGenerator do
    let typeParams ← g.typeParameters?
    let params ← parameterList g.parameter
    let result ← g.resultTyping?
    let body ← g.functionBody
    return [("params", params), ("decorators", .list ds), scope, ("body", body),
      ("generator", .bool isGenerator), ("async", .bool isAsync), ("typeParameters", typeParams),
      ("returnType", result)]

/-- Which parts a function must have. -/
structure FunctionForm where
  kind : String
  named : Bool
  hasBody : Bool

/-- A function as a value. -/
def FunctionForm.value : FunctionForm := ⟨"FunctionExpression", false, true⟩

/-- A function that is exported and need not have a name. -/
def FunctionForm.exported : FunctionForm := ⟨"FunctionExpression", false, false⟩

/-- A function that is declared. -/
def FunctionForm.declared : FunctionForm := ⟨"FunctionDeclaration", true, false⟩

/-- A function from `function` or `async` on. -/
def function (g : Grammar) (form : FunctionForm) (ds : List Tree) (more : Fields) :
    Rule Tree := do
  let start ← here
  let isAsync ← takeWord? "async"
  word "function"
  let isGenerator ← takeMark? "*"
  let name ← if form.named then newIdent
    else if (← token).isName then ident
    else pure .null
  let fields ← g.functionFields isAsync isGenerator ds
  require (!form.hasBody || (Tree.node "" fields).get "body" != .null)
  node form.kind start (("identifier", name) :: more ++ fields)

/-- Whether `function` or `async function` comes next. -/
def atFunction : Rule Bool := do
  if ← atWord "function" then return true
  let t ← next
  return (← atWord "async") && t.isWord "function" && !t.afterBreak

/-! ## Arrow functions -/

/-- The body of an arrow function. -/
def arrowBody (g : Grammar) (isAsync : Bool) : Rule Tree := inFunction isAsync false do
  if ← atMark "\x7b" then g.block else g.assignment

/-- An arrow function, read from its body on. -/
def arrow (g : Grammar) (start : Nat) (isAsync : Bool) (typeParams : Tree) (params : List Tree)
    (result : Tree) : Rule Tree := do
  let body ← g.arrowBody isAsync
  node "ArrowFunctionExpression" start
    [scope, ("params", .list params), ("body", body), ("async", .bool isAsync),
      ("generator", .bool false), ("typeParameters", typeParams), ("returnType", result)]

/-- `async<T>(x) => y`, read from its type parameters on. -/
def genericAsyncArrow (g : Grammar) (start : Nat) : Rule Tree := do
  let typeParams ← g.typeParameters
  mark "("
  let params ← enclosed (commaList ")" do
    let _ ← g.decorators
    g.anyParameter)
  let result ← g.resultTyping?
  mark "=>"
  g.arrow start true typeParams params result

/-! ## Items in parentheses -/

/-- Something in parentheses that may turn out to be a parameter. -/
inductive ParenItem where
  /-- an expression, perhaps with dots before it -/
  | argument (spread expression : Tree)
  /-- what can only be a parameter -/
  | pattern (t : Tree)

/-- The end of an assignment whose left side has been read. -/
def assignmentFrom (g : Grammar) (start : Nat) (left : Tree) : Rule Tree := do
  let t ← operator
  if !t.isAssignment then return left
  let target ← given (assignmentTarget? t.spelling left)
  let _ ← takeOperator
  let value ← g.assignment
  node "AssignmentExpression" start
    [("operator", .str t.spelling), ("left", target), ("right", value)]

/-- The branches of a condition after `?`. -/
def branches (g : Grammar) (start : Nat) (test : Tree) : Rule Tree := do
  let yes ← within
    (fun c => { c with inCondition := true, colonAwaited := true, takesIn := true }) g.assignment
  mark ":"
  let no ← within (fun c => { c with inCondition := true, colonAwaited := false }) g.assignment
  return spanned "ConditionalExpression" start no.range.stop
    [("test", test), ("consequent", yes), ("alternate", no)]

/-- The expression of an item; a `?` or `:` behind a name in it is left. -/
def itemExpression (g : Grammar) (start : Nat) : Rule (Tree × Tree) := do
  let t ← token
  if t.isName then
    let e ← g.binary 0
    return (.null, ← g.assignmentFrom start e)
  else if t.isMark "..." then
    mark "..."
    if (← token).isName then return (.span t.span, ← g.binary 0)
    else return (.span t.span, ← g.assignment)
  else return (.null, ← g.assignment)

/-- The parameter that an item with `?` or a type is. -/
def itemPattern (g : Grammar) (start : Nat) (spread e : Tree) (optional : Bool) :
    Rule Tree := do
  let pattern ← given (toPattern? .binding e)
  let pattern := if optional then withField "optional" (.bool true) pattern else pattern
  let pattern := if spread.isPresent then restTree ⟨start, e.range.stop⟩ spread pattern else pattern
  let typing ← if pattern.kind == "Invalid" || pattern.kind == "AssignmentPattern" then pure .null
    else g.typing?
  let span : Span := ⟨start, ← last⟩
  let pattern := if typing.isPresent then
      withField "span" (.span span) (withField "typeAnnotation" typing pattern)
    else pattern
  if ← takeMark? "=" then
    node "AssignmentPattern" start [("left", pattern), ("right", ← g.assignment)]
  else return pattern

/-- An item in parentheses. -/
def parenItem (g : Grammar) : Rule ParenItem := do
  modify fun s => { s with arrowStart := s.token.span.start }
  takeIdleModifier
  let start ← here
  let (spread, e) ← g.itemExpression start
  if ← atMark "?" then
    if (← next).isOneOf [",", "=", ":", ")"] then
      mark "?"
      require (e.kind == "Identifier")
      return .pattern (← g.itemPattern start spread e true)
    else if spread.isPresent then return .argument spread e
    else
      mark "?"
      let condition ← g.branches start e
      if ← atMark ":" then return .pattern (← g.itemPattern start spread condition false)
      else return .argument spread condition
  else if ← atMark ":" then return .pattern (← g.itemPattern start spread e false)
  else return .argument spread e

/-- The items in parentheses. -/
def parenItems (g : Grammar) : Rule (List ParenItem) := do
  mark "("
  enclosed (commaList ")" g.parenItem)

/-- The item as a parameter, given whether it is the last one; what takes the rest is
    dropped before the last. -/
def ParenItem.toParameters? (isLast : Bool) : ParenItem → Option (List Tree)
  | .pattern t => some (if t.kind = "RestElement" && !isLast then [] else [t])
  | .argument spread e =>
    if !spread.isPresent then (toPattern? .binding e).map fun t => [t]
    else if isLast then (toPattern? .binding e).map fun t => [restTree e.range spread t]
    else some []

/-- The items as parameters. -/
def itemsToParameters? : List ParenItem → Option (List Tree)
  | [] => some []
  | i :: is => do return (← i.toParameters? is.isEmpty) ++ (← itemsToParameters? is)

/-- The item as an argument of a call. -/
def ParenItem.toArgument? : ParenItem → Option Tree
  | .argument spread e => some (.node "" [("spread", spread), ("expression", e)])
  | .pattern _ => none

/-- The item as an expression. -/
def ParenItem.toExpression? : ParenItem → Option Tree
  | .argument .null e => some e
  | _ => none

/-- Whether an item can only be a parameter. -/
def ParenItem.isPattern : ParenItem → Bool
  | .pattern _ => true
  | .argument _ _ => false

/-- The items as an expression in parentheses. -/
def itemsToExpression (start : Nat) (items : List ParenItem) : Rule Tree := do
  match ← given (items.mapM ParenItem.toExpression?) with
  | [] => fail
  | [e] => node "ParenthesisExpression" start [("expression", e)]
  | e :: es =>
    let stop := (es.getLast?.getD e).range.stop
    let all := spanned "SequenceExpression" e.range.start stop [("expressions", .list (e :: es))]
    node "ParenthesisExpression" start [("expression", all)]

end SoleExport.Grammar
