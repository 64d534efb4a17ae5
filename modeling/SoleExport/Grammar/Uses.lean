/-
  The grammar of the uses of a value: its members and elements, calls of it, and
  the templates it is a tag of.

  A use of what an optional chain gives belongs to the chain, so it is wrapped in
  one (`chained`).  A `<` after a value may open type arguments or compare; what
  follows the type arguments decides (`valueArguments?`, `genericUse`).
-/
import SoleExport.Grammar.Patterns

namespace SoleExport.Grammar

open Rule

/-! ## Arguments -/

/-- An expression with commas at its top. -/
def expressions (g : Grammar) : Rule Tree := do
  let start ← here
  match ← sepBy "," g.assignment with
  | [e] => return e
  | es => node "SequenceExpression" start [("expressions", .list es)]

/-- An expression with commas at its top, between brackets. -/
def sequence (g : Grammar) : Rule Tree := enclosed g.expressions

/-- An element of an array or an argument of a call. -/
def argument (g : Grammar) : Rule Tree := do
  let t ← token
  let spread := if ← takeMark? "..." then .span t.span else .null
  return .node "" [("spread", spread), ("expression", ← enclosed g.assignment)]

/-- The arguments of a call. -/
def arguments (g : Grammar) : Rule Tree := do
  mark "("
  return .list (← commaList ")" g.argument)

/-! ## Type arguments of values -/

/-- The words other than names that an expression starts with. -/
def openingWords : List String :=
  ["this", "super", "null", "true", "false", "function", "class", "new", "delete", "typeof", "void",
    "await", "yield", "import"]

/-- The marks that an expression starts with. -/
def openingMarks : List String :=
  ["`", "(", "[", "\x7b", "+", "-", "~", "!", "++", "--", "<", "@"]

/-- Whether an expression can start with the token. -/
def startsExpression (t : Token) : Bool :=
  t.isName || t.isWordOf openingWords || t.isString || t.isNumeral || t.kind == .privateName ||
    t.isOneOf openingMarks

/-- Type arguments after a value, if the value is not compared: what follows them
    must not go on with an expression. -/
def valueArguments? (g : Grammar) : Rule (Option Tree) := do
  if !(← atAngle) then return none
  attempt? do
    let arguments ← g.typeArguments
    let t ← token
    if t.isOneOf ["<", "<<", ">", "+", "-", "(", "`"] then return none
    else if t.afterBreak || t.isOperator || !startsExpression t then return some arguments
    else return none

/-- A value with the type arguments after it, if there are any. -/
def instantiated (g : Grammar) (start : Nat) (value : Tree) : Rule Tree := do
  match ← g.valueArguments? with
  | some arguments =>
    node "TsInstantiation" start [("expression", value), ("typeArguments", arguments)]
  | none => return value

/-! ## Uses -/

/-- The expression that `!` was put behind, any number of times. -/
def withoutAssertions : Nat → Tree → Tree
  | 0, t => t
  | n + 1, t =>
    if t.kind = "TsNonNullExpression" then withoutAssertions n (t.get "expression") else t

/-- Whether a value is given by an optional chain. -/
def isChain (t : Tree) : Bool :=
  t.kind == "OptionalChainingExpression" ||
    (t.kind == "TsNonNullExpression" &&
      (withoutAssertions t.height t).kind == "OptionalChainingExpression")

/-- Wrap a use in an optional chain, if it belongs to one. -/
def chained (object : Tree) (optional : Bool) (base : Tree) : Tree :=
  if optional || isChain object then
    .node "OptionalChainingExpression"
      [("span", .span base.range), ("optional", .bool optional), ("base", base)]
  else base

/-- Whether a callee is no value by itself. -/
def isBareCallee (t : Tree) : Bool := t.kind == "Super" || t.kind == "Import"

/-- The name of a member after a dot. -/
def memberName : Rule Tree := do
  let t ← token
  if t.kind == .privateName then
    let _ ← take
    return privateTree t
  else anyName

/-- A member of an object, with the type arguments after it. -/
def member (g : Grammar) (object : Tree) (optional : Bool) (property : Tree) : Rule Tree := do
  let start := object.range.start
  require (object.kind != "Import")
  if object.kind = "Super" then
    require (!optional)
    node "SuperPropExpression" start [("obj", object), ("property", property)]
  else
    let use ← node "MemberExpression" start [("object", object), ("property", property)]
    g.instantiated start (chained object optional use)

/-- An element of an object. -/
def elementAccess (g : Grammar) : Rule Tree := do
  let start ← here
  mark "["
  let index ← g.sequence
  mark "]"
  node "Computed" start [("expression", index)]

/-- A call. -/
def call (g : Grammar) (callee : Tree) (optional : Bool) (typeArguments : Tree) : Rule Tree := do
  require (!(optional && isBareCallee callee))
  let arguments ← g.arguments
  return chained callee optional (← node "CallExpression" callee.range.start
    [scope, ("callee", callee), ("arguments", arguments), ("typeArguments", typeArguments)])

/-- A template with a tag. -/
def tagged (g : Grammar) (tag typeArguments : Tree) : Rule Tree := do
  let template ← template true "expressions" g.sequence
  node "TaggedTemplateExpression" tag.range.start
    [scope, ("tag", tag), ("typeParameters", typeArguments), ("template", template)]

/-- A use with type arguments: a call, a tagged template, or the value alone. -/
def genericUse (g : Grammar) (calls : Bool) (object : Tree) : Rule Tree := do
  let arguments ← g.typeArguments
  let t ← token
  if calls && t.isMark "(" then g.call object false arguments
  else if t.isMark "`" then g.tagged object arguments
  else
    require (t.isMark "=" || t.isWordOf ["as", "satisfies"])
    node "TsInstantiation" object.range.start
      [("expression", object), ("typeArguments", arguments)]

/-- What follows `?.`: a member, an element or a call. -/
def optionalUse (g : Grammar) (elements : Bool) (object : Tree) : Rule Tree := do
  mark "?."
  if elements && (← atMark "[") then g.member object true (← g.elementAccess)
  else if ← atMark "(" then g.call object true .null
  else if ← atAngle then
    let typeArguments ← g.typeArguments
    g.call object true typeArguments
  else g.member object true (← memberName)

/-- A use that starts with the current mark, if there is one; calls and elements are
    uses if the flags are set. -/
def plainUse? (g : Grammar) (calls elements : Bool) (object : Tree) : Rule (Option Tree) := do
  let t ← token
  if t.isMark "!" && !t.afterBreak then
    require (!isBareCallee object)
    mark "!"
    return some (← node "TsNonNullExpression" object.range.start [("expression", object)])
  else if t.isMark "?." then return some (← g.optionalUse elements object)
  else if elements && t.isMark "[" then
    return some (← g.member object false (← g.elementAccess))
  else if calls && t.isMark "(" then return some (← g.call object false .null)
  else if t.isMark "." then
    mark "."
    return some (← g.member object false (← memberName))
  else if t.isMark "`" && !isBareCallee object then return some (← g.tagged object .null)
  else
    require (!isBareCallee object)
    return none

/-- The next use of a value, if there is one. -/
def use? (g : Grammar) (calls elements : Bool) (object : Tree) : Rule (Option Tree) := do
  if !isBareCallee object && (← atAngle) then
    match ← attempt (g.genericUse calls object) with
    | some use => return some use
    | none => g.plainUse? calls elements object
  else g.plainUse? calls elements object

/-- A value with the uses of it that follow. -/
def uses (g : Grammar) (calls elements : Bool) (object : Tree) : Rule Tree :=
  extend (g.use? calls elements) object

/-! ## Decorators -/

/-- What is put on a class or a member by a decorator. -/
def decoration (g : Grammar) : Rule Tree := do
  if ← takeMark? "(" then
    let e ← g.sequence
    mark ")"
    return e
  let e ← g.uses true false (← newIdent)
  if ← atAngle then
    let typeArguments ← g.typeArguments
    g.call e false typeArguments
  else return e

/-- A decorator. -/
def decorator (g : Grammar) : Rule Tree := do
  let start ← here
  mark "@"
  node "Decorator" start [("expression", ← g.decoration)]

/-- Any number of decorators. -/
def decorators (g : Grammar) : Rule (List Tree) := many do
  if ← atMark "@" then return some (← g.decorator) else return none

end SoleExport.Grammar
