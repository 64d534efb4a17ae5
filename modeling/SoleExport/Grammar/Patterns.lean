/-
  The grammar of patterns and of the keys of properties.

  A pattern of new variables is read as such.  The target of an assignment and
  the parameters of an arrow function look like expressions up to the operator
  that follows them, so they are read as expressions and turned into patterns
  afterwards (`toPattern?`).  Whatever cannot be a pattern becomes an invalid one;
  only a method in an object cannot be turned at all.
-/
import SoleExport.Grammar.Types

namespace SoleExport.Grammar

open Rule

/-! ## Keys -/

/-- A key in brackets. -/
def computedKey (g : Grammar) : Rule Tree := do
  let start ← here
  mark "["
  let inner ← here
  let keys ← enclosed (sepBy "," g.assignment)
  let key ← match keys with
    | [key] => pure key
    | keys => node "SequenceExpression" inner [("expressions", .list keys)]
  mark "]"
  node "Computed" start [("expression", key)]

/-- The key of a property. -/
def propertyKey (g : Grammar) : Rule Tree := do
  let t ← token
  if t.isAnyWord then anyName
  else if t.isString then stringLiteral
  else if t.isNumeral then numeral
  else g.computedKey

/-! ## Patterns of new variables -/

/-- The name of a new variable. -/
def bindingName (mayBeLet : Bool) : Rule Tree := do
  let t ← token
  require (t.isBindable && (mayBeLet || !t.isWord "let"))
  let _ ← take
  return bindingTree t false .null

/-- A pattern with its default value, if it has one. -/
def patternElement (g : Grammar) : Rule Tree := do
  let start ← here
  let pattern ← g.pattern
  if ← takeMark? "=" then
    node "AssignmentPattern" start [("left", pattern), ("right", ← enclosed g.assignment)]
  else return pattern

/-- A pattern for what is left. -/
def restElement (g : Grammar) : Rule Tree := do
  let dots ← token
  mark "..."
  let argument ← g.pattern
  node "RestElement" dots.span.start
    [("rest", .span dots.span), ("argument", argument), ("typeAnnotation", .null)]

/-- Take a `?` after a pattern; it stands only where something is declared that
    exists elsewhere. -/
def takeOptional? : Rule Bool := do
  if (← context).isAmbient then takeMark? "?" else return false

/-- An array pattern; between two commas there may be nothing. -/
def arrayPattern (g : Grammar) : Rule Tree := do
  let start ← here
  mark "["
  let elements ← commaList "]" do
    if ← atMark "," then return .null
    else if ← atMark "..." then g.restElement
    else g.patternElement
  let optional ← takeOptional?
  node "ArrayPattern" start
    [("elements", .list elements), ("optional", .bool optional), ("typeAnnotation", .null)]

/-- A property of an object pattern. -/
def propertyPattern (g : Grammar) : Rule Tree := do
  if ← atMark "..." then return ← g.restElement
  let t ← token
  let key ← g.propertyKey
  if ← takeMark? ":" then
    return .node "KeyValuePatternProperty" [("key", key), ("value", ← g.patternElement)]
  require t.isAnyWord
  let value ← if ← takeMark? "=" then enclosed g.assignment else pure .null
  node "AssignmentPatternProperty" t.span.start
    [("key", bindingTree t false .null), ("value", value)]

/-- Whether the last property of an object pattern does not take what is left apart. -/
def endsPlainly (properties : List Tree) : Bool :=
  match properties.getLast? with
  | some p => p.kind != "RestElement" || (p.get "argument").kind == "Identifier"
  | none => true

/-- An object pattern. -/
def objectPattern (g : Grammar) : Rule Tree := do
  let start ← here
  mark "\x7b"
  let properties ← commaList "\x7d" g.propertyPattern
  require (endsPlainly properties)
  let stop ← last
  let optional ← takeOptional?
  return spanned "ObjectPattern" start stop
    [("properties", .list properties), ("optional", .bool optional), ("typeAnnotation", .null)]

/-- A new variable or a pattern of new variables, without a default value. -/
def bindingPattern (g : Grammar) (mayBeLet : Bool) : Rule Tree := do
  if ← atMark "[" then g.arrayPattern
  else if ← atMark "\x7b" then g.objectPattern
  else bindingName mayBeLet

/-! ## Expressions as patterns -/

/-- What a pattern that was read as an expression is for. -/
inductive PatternUse where
  /-- the target of an assignment -/
  | target
  /-- a part of the target of an assignment -/
  | targetPart
  /-- new variables -/
  | binding
deriving DecidableEq, Repr, Inhabited

/-- What the parts of a pattern are for. -/
def PatternUse.part : PatternUse → PatternUse
  | .binding => .binding
  | _ => .targetPart

/-- The expressions that can be parts of a target as they are. -/
def targetParts : List String :=
  ["MemberExpression", "SuperPropExpression", "CallExpression", "NewExpression", "StringLiteral",
    "NumericLiteral", "BigIntLiteral", "BooleanLiteral", "NullLiteral", "RegExpLiteral",
    "Identifier", "FunctionExpression", "ClassExpression", "ParenthesisExpression",
    "TemplateLiteral", "TsAsExpression"]

/-- Whether an expression is kept as it is. -/
def PatternUse.keeps (u : PatternUse) (t : Tree) : Bool :=
  match u with
  | .target => t.kind != "ObjectExpression" && t.kind != "ArrayExpression"
  | .targetPart => targetParts.contains t.kind
  | .binding => false

/-- A pattern for what is left, of the given extent. -/
def restTree (span : Span) (dots : Tree) (argument : Tree) : Tree :=
  .node "RestElement" [("span", .span span), ("rest", dots), ("argument", argument),
    ("typeAnnotation", .null)]

/-- The elements of an array without the holes at its end. -/
def withoutLastHoles (es : List Tree) : List Tree :=
  (es.reverse.dropWhile fun e => !e.isPresent).reverse

/-- Turn a property of an object into one of a pattern, its parts being turned by
    `convert`. -/
def propertyToPattern? (use : PatternUse) (convert : Tree → Option Tree) (p : Tree) :
    Option Tree :=
  match p.kind with
  | "Identifier" =>
    some (.node "AssignmentPatternProperty"
      [("span", .span p.range), ("key", asPattern p), ("value", .null)])
  | "KeyValueProperty" => do
    let value ← convert (p.get "value")
    return .node "KeyValuePatternProperty" [("key", p.get "key"), ("value", value)]
  | "AssignmentProperty" =>
    some (.node "AssignmentPatternProperty"
      [("span", .span p.range), ("key", asPattern (p.get "key")), ("value", p.get "value")])
  | "SpreadElement" => do
    let argument := p.get "arguments"
    let span : Span := match p.get "spread" with
      | .span s => ⟨s.start, argument.range.stop⟩
      | _ => argument.range
    let pattern ← if use = .binding then
        some (if argument.kind = "Identifier" then asPattern argument else invalid 0 0)
      else convert argument
    return restTree span (p.get "spread") pattern
  | _ => none

/-- Turn the elements of an array into those of a pattern: only the last one can
    stand for what is left. -/
def elementsToPattern? (convert : Tree → Option Tree) : List Tree → Option (List Tree)
  | [] => some []
  | e :: es => do
    let rest ← elementsToPattern? convert es
    if !e.isPresent then return .null :: rest
    let argument := e.get "expression"
    if !(e.get "spread").isPresent then return (← convert argument) :: rest
    if es.isEmpty then
      return [restTree argument.range (e.get "spread") (← convert argument)]
    else return rest

/-- Turn an expression into a pattern, as deep as `fuel` allows. -/
def toPatternUpTo : Nat → PatternUse → Tree → Option Tree
  | 0, _, _ => none
  | fuel + 1, use, t =>
    let convert := toPatternUpTo fuel use.part
    if use.keeps t then some (asPattern t)
    else
      match t.kind with
      | "Identifier" => some (asPattern t)
      | "AssignmentExpression" =>
        if t.text "operator" = "=" then
          some (.node "AssignmentPattern"
            [("span", .span t.range), ("left", t.get "left"), ("right", t.get "right")])
        else some (invalid t.range.start t.range.stop)
      | "ObjectExpression" => do
        let properties ← (t.seq "properties").mapM (propertyToPattern? use convert)
        return .node "ObjectPattern"
          [("span", .span t.range), ("properties", .list properties), ("optional", .bool false),
            ("typeAnnotation", .null)]
      | "ArrayExpression" => do
        let elements := t.seq "elements"
        let kept := withoutLastHoles elements
        let elements ← if kept.length = elements.length then elementsToPattern? convert elements
          else elementsToPattern? convert (kept ++ [.null]) |>.map List.dropLast
        return .node "ArrayPattern"
          [("span", .span t.range), ("elements", .list elements), ("optional", .bool false),
            ("typeAnnotation", .null)]
      | _ => some (invalid t.range.start t.range.stop)

/-- Turn an expression into a pattern. -/
def toPattern? (use : PatternUse) (t : Tree) : Option Tree := toPatternUpTo t.height use t

/-- The expressions that a value can be assigned to. -/
def simpleTargets : List String :=
  ["Identifier", "MemberExpression", "SuperPropExpression", "OptionalChainingExpression",
    "ParenthesisExpression", "TsAsExpression", "TsSatisfiesExpression", "TsNonNullExpression",
    "TsTypeAssertion", "TsInstantiation"]

/-- The target of an assignment by the given operator. -/
def assignmentTarget? (operator : String) (t : Tree) : Option Tree :=
  if simpleTargets.contains t.kind then some (asPattern t)
  else if operator = "=" ∧ (t.kind = "ObjectExpression" ∨ t.kind = "ArrayExpression") then
    toPattern? .target t
  else none

end SoleExport.Grammar
