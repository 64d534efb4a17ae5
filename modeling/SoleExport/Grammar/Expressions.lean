/-
  The grammar of expressions.

  From the inside out: operands (`primary`), their uses as objects, callees and
  tags (`calleeExpression`, `accessExpression`), operators by precedence
  (`binaryExpression`), conditions and assignments.  An arrow function is an
  operand, but only where an assignment starts (`mayBeArrow`), and nothing that
  follows it belongs to it.
-/
import SoleExport.Grammar.Classes
import SoleExport.Grammar.Markup

namespace SoleExport.Grammar

open Rule

/-! ## Objects and arrays -/

/-- An array literal; between two commas there may be nothing, and a comma may be
    missing. -/
def arrayLiteral (g : Grammar) : Rule Tree := do
  let start ← here
  mark "["
  let elements ← many do
    if ← takeMark? "]" then return none
    else if ← takeMark? "," then return some .null
    else
      let e ← g.argument
      let _ ← takeMark? ","
      return some e
  node "ArrayExpression" start [("elements", .list elements)]

/-- A method of an object, read from its parameters on. -/
def objectMethod (g : Grammar) (start : Nat) (isAsync isGenerator : Bool) (key : Tree) :
    Rule Tree := do
  let fields ← g.functionFields isAsync isGenerator []
  node "MethodProperty" start (("key", key) :: fields)

/-- A property that reads a value, from its key on. -/
def objectGetter (g : Grammar) (start : Nat) : Rule Tree := do
  let key ← g.propertyKey
  let parts : Tree := .node "" (← g.functionFields false false [])
  node "GetterProperty" start
    [("key", key), ("typeAnnotation", parts.get "returnType"), ("body", parts.get "body")]

/-- The parameters of a setter: `this` if it is told, and the new value. -/
def setterParameters (params : List Tree) : Tree × Tree :=
  match params with
  | [] => (.null, invalid 0 0)
  | [p] => (.null, p.get "pat")
  | p :: q :: _ => (p.get "pat", q.get "pat")

/-- A property that takes a value, from its key on. -/
def objectSetter (g : Grammar) (start : Nat) : Rule Tree := do
  let key ← g.propertyKey
  let parts : Tree := .node "" (← g.functionFields false false [])
  let (this, param) := setterParameters (parts.seq "params")
  node "SetterProperty" start
    [("key", key), ("thisParam", this), ("param", param), ("body", parts.get "body")]

/-- A property after the word `get`, `set` or `async`. -/
def propertyAfterWord (g : Grammar) (start : Nat) (w : String) : Rule Tree := do
  match w with
  | "get" => g.objectGetter start
  | "set" => g.objectSetter start
  | "async" =>
    let isGenerator ← takeMark? "*"
    g.objectMethod start true isGenerator (← g.propertyKey)
  | _ => fail

/-- Whether the token can follow a key in an object literal. -/
def mayFollowKey (isWord : Bool) (t : Token) : Bool :=
  t.isOneOf ["(", "[", ":", ",", "?", "=", "*", "<"] || t.isAnyWord || t.isString || t.isNumber ||
    (t.isMark "\x7d" && isWord)

/-- A property that is named by its key, which starts with the token `first`; without
    a value that can be read it is still one. -/
def keyedProperty (g : Grammar) (start : Nat) (first : Token) (key : Tree) : Rule Tree := do
  if !mayFollowKey first.isAnyWord (← token) then
    return .node "KeyValueProperty" [("key", key), ("value", invalid start (← last))]
  if ← takeMark? ":" then
    return .node "KeyValueProperty" [("key", key), ("value", ← g.assignment)]
  if ← atMethod then return ← g.objectMethod start false false key
  require first.isAnyWord
  let _ ← takeMark? "?"
  if ← takeMark? "=" then
    node "AssignmentProperty" start [("key", identTree first false), ("value", ← g.assignment)]
  else if ← atOneOf [",", "\x7d"] then return identTree first false
  else g.propertyAfterWord start first.spelling

/-- A property of an object literal. -/
def objectProperty (g : Grammar) : Rule Tree := do
  let start ← here
  let dots ← token
  if ← takeMark? "..." then
    return .node "SpreadElement" [("spread", .span dots.span), ("arguments", ← g.assignment)]
  if ← takeMark? "*" then return ← g.objectMethod start false true (← g.propertyKey)
  takeIdleModifier
  let first ← token
  g.keyedProperty start first (← g.propertyKey)

/-- An object literal. -/
def objectLiteral (g : Grammar) : Rule Tree := do
  let start ← here
  mark "\x7b"
  let properties ← enclosed (commaList "\x7d" g.objectProperty)
  node "ObjectExpression" start [("properties", .list properties)]

/-! ## Operators -/

/-- How tightly the binary operators bind. -/
def precedences : List (String × Nat) :=
  [("??", 1), ("||", 1), ("&&", 2), ("|", 3), ("^", 4), ("&", 5),
    ("==", 6), ("!=", 6), ("===", 6), ("!==", 6),
    ("<", 7), (">", 7), ("<=", 7), (">=", 7), ("in", 7), ("instanceof", 7),
    ("<<", 8), (">>", 8), (">>>", 8), ("+", 9), ("-", 9), ("*", 10), ("/", 10), ("%", 10),
    ("**", 11)]

/-- How tightly the token binds as a binary operator. -/
def precedence? (t : Token) : Option Nat :=
  if t.kind == .word || t.kind == .mark then precedences.lookup t.spelling else .none

/-- How tightly `as` binds. -/
def ascriptionPrecedence : Nat := 7

/-- `e as T`, `e satisfies T`, from the word on. -/
def ascribed (g : Grammar) (e : Tree) : Rule Tree := do
  let start := e.range.start
  let t ← take
  if ← takeWord? "const" then
    require (t.isWord "as")
    node "TsConstAssertion" start [("expression", e)]
  else
    node (if t.isWord "as" then "TsAsExpression" else "TsSatisfiesExpression") start
      [("expression", e), ("typeAnnotation", ← g.type)]

/-- Whether the current `<` belongs to a closing tag. -/
def opensClosingTag : Rule Bool := do
  let s ← get
  return s.dialect.markup && (← atClosing) && (s.rest.drop 1).head? != some '*'

/-- The current binary operator, if there is one. -/
def binaryOperator? : Rule (Option (Token × Nat)) := do
  let t ← operator
  if (t.isWord "in" && !(← context).takesIn) || (← opensClosingTag) then return none
  return (precedence? t).map fun p => (t, p)

/-- Whether a value is not raised to a power without parentheses. -/
def isWeakBase (t : Tree) : Bool := t.kind == "UnaryExpression" || t.kind == "AwaitExpression"

/-- The next binary operator that binds more tightly than the given one, with its
    right operand. -/
def operation? (g : Grammar) (above : Nat) (left : Tree) : Rule (Option Tree) := do
  let word ← token
  if word.isWordOf ["as", "satisfies"] && !word.afterBreak && above < ascriptionPrecedence then
    return some (← g.ascribed left)
  match ← binaryOperator? with
  | none => return none
  | some (t, p) =>
    if p ≤ above then return none
    let _ ← takeOperator
    require !(t.isMark "**" && isWeakBase left)
    let right ← g.binary (if t.isMark "**" then p - 1 else p)
    return some (spanned "BinaryExpression" left.range.start right.range.stop
      [("operator", .str t.spelling), ("left", left), ("right", right)])

/-- An operand with the binary operators after it that bind more tightly than the
    given one. -/
def operations (g : Grammar) (above : Nat) (left : Tree) : Rule Tree :=
  extend (g.operation? above) left

/-! ## Parentheses and arrow functions -/

/-- Whether a tree is an arrow function. -/
def isArrow (t : Tree) : Bool := t.kind == "ArrowFunctionExpression"

/-- Whether an arrow function may start with the current token. -/
def mayBeArrow : Rule Bool := do
  let s ← get
  return s.arrowStart == s.token.span.start

/-- The rest of an arrow function in a condition, from its result type on.  Where
    the condition still needs its `:`, that must follow. -/
def arrowInCondition? (g : Grammar) (start : Nat) (isAsync : Bool) (items : List ParenItem) :
    Rule (Option Tree) := do
  let c ← context
  if !(c.inCondition && (← atMark ":")) then return none
  attempt do
    let result ← g.resultTyping ":"
    mark "=>"
    let params ← given (itemsToParameters? items)
    let arrow ← g.arrow start isAsync .null params result
    require (!c.colonAwaited || (← atMark ":"))
    return arrow

/-- The result type of an arrow function, if there is one. -/
def arrowResult? (g : Grammar) : Rule (Option Tree) := do
  if (← context).colonAwaited || !(← atMark ":") then return none
  attempt do
    let result ← g.resultTyping ":"
    require (← atMark "=>")
    return result

/-- What a parenthesis opens, after `async` if the flag is set: an arrow function if
    one is allowed here, a call of `async`, or an expression.  An operator behind
    the braces of an arrow function takes it as its operand. -/
def parenthesized (g : Grammar) (start : Nat) (isAsync allowed : Bool) : Rule Tree := do
  let items ← g.parenItems
  match ← g.arrowInCondition? start isAsync items with
  | some arrow => return arrow
  | none =>
    let result ← g.arrowResult?
    if items.any ParenItem.isPattern || result.isSome || (← atMark "=>") then
      require (allowed && !(← token).afterBreak)
      mark "=>"
      let params ← given (itemsToParameters? items)
      let arrow ← g.arrow start isAsync .null params (orNull result)
      if (arrow.get "body").kind = "BlockStatement" && (← operator).isOperator then
        g.operations 0 arrow
      else return arrow
    else if isAsync then
      let arguments ← given (items.mapM ParenItem.toArgument?)
      let callee : Token := ⟨.word, "async", ⟨start, start + 5⟩, false, []⟩
      node "CallExpression" start
        [scope, ("callee", identTree callee false), ("arguments", .list arguments),
          ("typeArguments", .null)]
    else itemsToExpression start items

/-- A name, or an arrow function whose only parameter it is. -/
def nameOperand (g : Grammar) : Rule Tree := do
  let start ← here
  let allowed ← mayBeArrow
  let name ← ident
  let t ← token
  if !allowed || t.afterBreak then return name
  if name.text "value" = "async" && t.isName then
    let param ← bindingName true
    if t.isWord "as" && !(← atMark "=>") then
      node "TsAsExpression" start [("expression", name), ("typeAnnotation", ← g.type)]
    else
      mark "=>"
      g.arrow start true .null [param] .null
  else if ← takeMark? "=>" then g.arrow start false .null [asPattern name] .null
  else return name

/-- `async` as the start of an arrow function, or as a name. -/
def asyncOperand (g : Grammar) : Rule Tree := do
  let start ← here
  let allowed ← mayBeArrow
  let following ← next
  let generic ← if allowed && following.isMark "<" then attempt do
      word "async"
      g.genericAsyncArrow start
    else pure none
  match generic with
  | some arrow => return arrow
  | none =>
    if allowed && following.isMark "(" && !following.afterBreak then
      word "async"
      g.parenthesized start true allowed
    else g.nameOperand

/-! ## Operands -/

/-- A class as a value, with its decorators. -/
def classExpression (g : Grammar) : Rule Tree := do
  let start ← here
  let ds ← g.decorators
  g.classDefinition "ClassExpression" false false start ds []

/-- An operand that starts with a word. -/
def wordOperand (g : Grammar) : Rule Tree := do
  let start ← here
  let t ← token
  if ← atFunction then g.function FunctionForm.value [] []
  else if t.isWord "class" then g.classExpression
  else if t.isWord "async" then g.asyncOperand
  else if t.isWord "this" then
    let _ ← take
    node "ThisExpression" start []
  else if t.isWord "null" then
    let _ ← take
    node "NullLiteral" start []
  else if t.isWordOf ["true", "false"] then
    let _ ← take
    node "BooleanLiteral" start [("value", .bool (t.isWord "true"))]
  else g.nameOperand

/-- An operand that starts with a mark. -/
def markOperand (g : Grammar) : Rule Tree := do
  let start ← here
  match (← token).spelling with
  | "(" => g.parenthesized start false (← mayBeArrow)
  | "[" => g.arrayLiteral
  | "\x7b" => g.objectLiteral
  | "@" => g.classExpression
  | "`" => template false "expressions" g.sequence
  | "/" | "/=" => do
    match (← takeRegex).kind with
    | .regex pattern flags =>
      node "RegExpLiteral" start [("pattern", .str pattern), ("flags", .str flags)]
    | _ => fail
  | _ => fail

/-- An operand without the uses of it that follow. -/
def primary (g : Grammar) : Rule Tree := do
  let t ← token
  match t.kind with
  | .word => g.wordOperand
  | .mark => g.markOperand
  | .string _ => stringLiteral
  | .number _ | .bigint _ => numeral
  | .privateName => do
    let _ ← take
    return privateTree t
  | _ => fail

/-! ## Uses of a value -/

/-- `super` -/
def superOperand : Rule Tree := do
  let start ← here
  word "super"
  node "Super" start []

/-- `import.meta`, or `import` as what is called. -/
def importOperand : Rule Tree := do
  let start ← here
  word "import"
  if ← takeMark? "." then
    let t ← token
    let _ ← anyName
    match t.spelling with
    | "meta" => node "MetaProperty" start [("kind", .str "import.meta")]
    | "defer" | "source" => node "Import" start [("phase", .str t.spelling)]
    | _ => fail
  else node "Import" start [("phase", .str "evaluation")]

/-- Type arguments before the arguments of a call, if there are any. -/
def callTypeArguments? (g : Grammar) : Rule (Option Tree) := do
  if !(← atAngle) then return none
  attempt do
    let arguments ← g.typeArguments
    require (← atMark "(")
    return arguments

/-- Whether a value is given by an optional chain or is a member of what one gives. -/
def comesFromChain (t : Tree) : Bool :=
  t.kind == "OptionalChainingExpression" ||
    (t.kind == "MemberExpression" && (t.get "object").kind == "OptionalChainingExpression")

/-- A value made by `new`. -/
def construction (g : Grammar) : Rule Tree := do
  let start ← here
  word "new"
  if ← takeMark? "." then
    word "target"
    return ← g.uses false true (← node "MetaProperty" start [("kind", .str "new.target")])
  let callee ← g.callee
  if isArrow callee then return callee
  require (!comesFromChain callee)
  let typeArguments ← g.callTypeArguments?
  let called ← atMark "("
  let arguments ← if called then g.arguments else pure .null
  let made ← node "NewExpression" start
    [scope, ("callee", callee), ("arguments", arguments), ("typeArguments", orNull typeArguments)]
  if called then g.uses false true made else return made

/-- An operand with the uses of it that follow, calls excepted. -/
def calleeExpression (g : Grammar) : Rule Tree := do
  let start ← here
  if ← atWord "new" then g.construction
  else if ← atWord "super" then g.uses false true (← superOperand)
  else if ← atWord "import" then g.uses false true (← importOperand)
  else
    let value ← g.primary
    if isArrow value then return value
    g.uses false true (← g.instantiated start value)

/-- An operand with the uses of it that follow. -/
def accessExpression (g : Grammar) : Rule Tree := do
  if ← atWord "super" then return ← g.uses true true (← superOperand)
  if ← atWord "import" then return ← g.uses true true (← importOperand)
  let callee ← g.calleeExpression
  if isArrow callee then return callee
  if callee.kind = "NewExpression" && !(callee.get "arguments").isPresent then return callee
  let typeArguments ← g.callTypeArguments?
  if ← atMark "(" then g.uses true true (← g.call callee false (orNull typeArguments))
  else return callee

/-! ## Operators before and after an operand -/

/-- The operators before an operand. -/
def unaryOperators : List String := ["delete", "void", "typeof", "+", "-", "~", "!"]

/-- Whether the token is an operator before an operand. -/
def isUnaryOperator (t : Token) : Bool := t.isOneOf unaryOperators || t.isWordOf unaryOperators

/-- An operand after an operator; an invalid one stands for what cannot be read. -/
def unaryExpression (g : Grammar) : Rule Tree := do
  let start ← here
  let t ← take
  let before := (← here) - 1
  let argument := (← recover g.unary).getD (invalid before before)
  return spanned "UnaryExpression" start argument.range.stop
    [("operator", .str t.spelling), ("argument", argument)]

/-- `await`, as an operator or, where nothing that can be awaited follows it, as a
    name. -/
def awaitExpression (g : Grammar) : Rule Tree := do
  let t ← token
  word "await"
  require !(← atMark "*")
  if !(← context).isAsync && ((← atOneOf [")", "]", ","]) || (← atEnd)) then
    return identTree t false
  node "AwaitExpression" t.span.start [("argument", ← g.unary)]

/-- `<T>x` -/
def typeAssertion (g : Grammar) : Rule Tree := do
  let start ← here
  mark "<"
  if ← takeWord? "const" then
    mark ">"
    node "TsConstAssertion" start [("expression", ← g.unary)]
  else
    let type ← g.type
    mark ">"
    let e ← g.unary
    node "TsTypeAssertion" start [("expression", e), ("typeAnnotation", type)]

/-- An operand of a binary operator. -/
def unaryOperand (g : Grammar) : Rule Tree := do
  let start ← here
  let t ← token
  if t.isMark "<" then
    if (← dialect).markup then
      require !(← opensClosingTag)
      g.markupElement false
    else g.typeAssertion
  else if t.isOneOf ["++", "--"] then
    let _ ← take
    let argument ← g.unary
    return spanned "UpdateExpression" start argument.range.stop
      [("operator", .str t.spelling), ("prefix", .bool true), ("argument", argument)]
  else if isUnaryOperator t then g.unaryExpression
  else if t.isWord "await" then g.awaitExpression
  else
    let e ← g.accessExpression
    let after ← token
    if isArrow e || after.afterBreak || !after.isOneOf ["++", "--"] then return e
    let _ ← take
    node "UpdateExpression" e.range.start
      [("operator", .str after.spelling), ("prefix", .bool false), ("argument", e)]

/-- The first operand of binary operators; before an operator an invalid one stands
    for what cannot be read.  A slash that could not be read starts no operator. -/
def leftOperand (g : Grammar) : Rule Tree := do
  match ← recover g.unaryOperand with
  | some e => return e
  | none =>
    require !(← atOneOf ["/", "/="])
    match ← binaryOperator? with
    | some (t, _) => return invalid t.span.start t.span.stop
    | none => fail

/-- An expression of operators that bind more tightly than the given one. -/
def binaryExpression (g : Grammar) (above : Nat) : Rule Tree := do
  let left ← if above = 0 then g.leftOperand else g.unaryOperand
  if isArrow left then return left else g.operations above left

/-- A condition `a ? b : c`, or an expression of tighter operators. -/
def conditional (g : Grammar) : Rule Tree := do
  let start ← here
  let test ← g.binaryExpression 0
  if isArrow test then return test
  if ← takeMark? "?" then g.branches start test else return test

/-! ## Assignments -/

/-- `yield`, with its value if there is one. -/
def yield (g : Grammar) : Rule Tree := do
  let start ← here
  word "yield"
  let t ← token
  let hasValue := !(← atEnd) && (startsExpression t || t.isOneOf ["*", "/", "/="])
  let delegate ← if hasValue then takeMark? "*" else pure false
  let argument ← if hasValue then g.assignment else pure .null
  node "YieldExpression" start [("argument", argument), ("delegate", .bool delegate)]

/-- `<T>(x) => y`, if that comes next. -/
def genericArrow? (g : Grammar) : Rule (Option Tree) := do
  if !((← atMark "<") && (← next).isAnyWord) then return none
  let start ← here
  within (fun c => { c with colonAwaited := false }) <| attempt do
    let typeParams ← g.typeParameters
    let arrow ← g.assignment
    require (isArrow arrow)
    return startingAt start (withField "typeParameters" typeParams arrow)

/-- The expressions that no assignment operator follows. -/
def finalKinds : List String :=
  ["ArrowFunctionExpression", "ConditionalExpression", "BinaryExpression", "UnaryExpression",
    "UpdateExpression"]

/-- An expression without commas at its top. -/
def assignmentExpression (g : Grammar) : Rule Tree := do
  match ← g.genericArrow? with
  | some arrow => return arrow
  | none =>
    if (← context).isGenerator && (← atWord "yield") then return ← g.yield
    let start ← here
    let t ← token
    let mayStart := t.isName || t.isWord "yield" || t.isMark "("
    modify fun s => { s with arrowStart := if mayStart then start else 0 }
    let left ← g.conditional
    if finalKinds.contains left.kind then return left else g.assignmentFrom start left

end SoleExport.Grammar
