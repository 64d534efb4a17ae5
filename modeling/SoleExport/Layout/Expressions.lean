/-
  Layouts of expressions.

  A property of an object and an element of a list stand on lines of their own;
  everything else stays on one line.  Parentheses are nodes of the tree, so none
  are added.
-/
import SoleExport.Layout.Definitions
import SoleExport.Layout.Patterns

namespace SoleExport.Printer

open Layout

/-! ## Objects and arrays -/

/-- An element of an array or an argument of a call. -/
def argument (p : Printer) : Tree → Layout
  | .null => []
  | t =>
    (match t.get "spread" with
      | .span s => [.leading s.start] ++ text "..."
      | _ => []) ++ p.expr (t.get "expression")

/-- An array literal: one element on each line.  Behind a hole at the end stands a
    comma. -/
def array (p : Printer) (t : Tree) : Layout :=
  let elements := t.seq "elements"
  let endsInHole := match elements.getLast? with
    | some .null => true
    | _ => false
  if elements.isEmpty then text "[]"
  else
    text "[" ++ [.line, .indent] ++ separated (text "," ++ [.line]) (column p.argument elements) ++
      wordIf endsInHole "," ++ [.dedent, .line] ++ text "]"

/-- An object literal: one property on each line. -/
def object (p : Printer) (t : Tree) : Layout :=
  let properties := t.seq "properties"
  openBrace ++
    (if properties.isEmpty then [.lineIf (t.range.stop - 1)]
      else lines (text ",") (column p.node properties)) ++
    closeBrace

/-- A property of an object literal. -/
def property? (p : Printer) (t : Tree) : Option Layout :=
  match t.kind with
  | "KeyValueProperty" => some (p.node (t.get "key") ++ word ":" ++ p.expr (t.get "value"))
  | "AssignmentProperty" => some (p.node (t.get "key") ++ text "=" ++ p.expr (t.get "value"))
  | "SpreadElement" => some (text "..." ++ p.expr (t.get "arguments"))
  | "MethodProperty" =>
    some (wordIf (t.flag "async") "async" ++ textIf (t.flag "generator") "*" ++
      p.node (t.get "key") ++ [.blank] ++ p.signature t ++ p.body (t.get "body"))
  | "GetterProperty" =>
    some (word "get" ++ p.node (t.get "key") ++ [.blank] ++ text "()" ++ [.blank] ++
      part p.node (t.get "body"))
  | "SetterProperty" =>
    some (word "set" ++ p.node (t.get "key") ++ [.blank] ++
      parenthesized (part (fun this => p.pattern this ++ word ",") (t.get "thisParam") ++
        p.pattern (t.get "param")) ++ part p.node (t.get "body"))
  | _ => none

/-! ## Operators -/

/-- The operators that are words. -/
def wordOperators : List String := ["typeof", "void", "delete"]

/-- The operator a node starts with, if it starts with one. -/
def firstOperator (t : Tree) : String :=
  match t.kind with
  | "UnaryExpression" => t.text "operator"
  | "UpdateExpression" => if t.flag "prefix" then t.text "operator" else ""
  | _ => ""

/-- A unary operator with its operand; `- -a` keeps its blank. -/
def unary (p : Printer) (t : Tree) : Layout :=
  let op := t.text "operator"
  let next := firstOperator (t.get "argument")
  let clash := (op == "+" && (next == "+" || next == "++")) ||
    (op == "-" && (next == "-" || next == "--"))
  text op ++ (if wordOperators.contains op || clash then [.blank] else []) ++
    p.expr (t.get "argument")

/-- `++a`, `a++` -/
def update (p : Printer) (t : Tree) : Layout :=
  let op := text (t.text "operator")
  if t.flag "prefix" then op ++ p.expr (t.get "argument") else p.expr (t.get "argument") ++ op

/-- An operator with its operands. -/
def operation? (p : Printer) (t : Tree) : Option Layout :=
  match t.kind with
  | "UnaryExpression" => some (p.unary t)
  | "UpdateExpression" => some (p.update t)
  | "BinaryExpression" =>
    some (p.expr (t.get "left") ++ spaced (t.text "operator") ++ p.expr (t.get "right"))
  | "AssignmentExpression" =>
    some (p.node (t.get "left") ++ spaced (t.text "operator") ++ p.expr (t.get "right"))
  | "ConditionalExpression" =>
    some (p.expr (t.get "test") ++ spaced "?" ++ p.expr (t.get "consequent") ++ spaced ":" ++
      p.expr (t.get "alternate"))
  | "SequenceExpression" => some (commas ((t.seq "expressions").map p.expr))
  | "ParenthesisExpression" => some (parenthesized (p.expr (t.get "expression")))
  | "AwaitExpression" => some (word "await" ++ p.expr (t.get "argument"))
  | "YieldExpression" =>
    some (text "yield" ++ textIf (t.flag "delegate") "*" ++
      part (fun a => [.openIf a.range.start] ++ p.expr a ++ [.closeIf]) (t.get "argument"))
  | "TsAsExpression" =>
    some (p.expr (t.get "expression") ++ spaced "as" ++ p.node (t.get "typeAnnotation"))
  | "TsSatisfiesExpression" =>
    some (p.expr (t.get "expression") ++ spaced "satisfies" ++ p.node (t.get "typeAnnotation"))
  | "TsConstAssertion" => some (p.expr (t.get "expression") ++ spaced "as" ++ text "const")
  | "TsNonNullExpression" => some (p.expr (t.get "expression") ++ text "!")
  | "TsTypeAssertion" =>
    some (text "<" ++ p.node (t.get "typeAnnotation") ++ text ">" ++ p.expr (t.get "expression"))
  | "TsInstantiation" => some (p.expr (t.get "expression") ++ p.node (t.get "typeArguments"))
  | _ => none

/-! ## Members and calls -/

/-- A member; a computed one stands in brackets. -/
def memberAccess (p : Printer) (dot : String) (property : Tree) : Layout :=
  if property.kind = "Computed" then textIf (dot == "?.") dot ++ p.node property
  else text dot ++ p.node property

/-- Whether a dot behind a number would be read as a part of it. -/
def takesDot (t : Tree) : Bool :=
  match t.kind, t.text? "raw" with
  | "NumericLiteral", some raw =>
    raw.all Char.isDigit && !(raw.startsWith "0" && 2 ≤ raw.length)
  | "NumericLiteral", none =>
    match t.get "value" with
    | .num d => (Shortest.text numberFormat d).all fun c => c != '.' && c != 'e'
    | _ => false
  | _, _ => false

/-- The object of a member, with the comments before the dot; behind a whole number
    stand two dots. -/
def memberOf (p : Printer) (object property : Tree) : Layout :=
  let start := property.range.start
  let value := if object.kind = "NumericLiteral" then p.node object else p.expr object
  if property.kind != "Identifier" then value
  else
    value ++ (if takesDot object then [.leading (start - 2)] ++ text "." else []) ++
      [.leading (start - 1)]

/-- The arguments of a call. -/
def arguments (p : Printer) (t : Tree) : Layout :=
  parenthesized (commas (row p.argument (t.seq "arguments")))

/-- What is called. -/
def callee (p : Printer) (t : Tree) : Layout :=
  if t.kind = "Super" ∨ t.kind = "Import" then p.node t else p.expr t

/-- The part of an optional chain. -/
def chained (p : Printer) (t : Tree) (optional : Bool) : Layout :=
  let base := t.get "base"
  if base.kind = "MemberExpression" then
    p.expr (base.get "object") ++
      p.memberAccess (if optional then "?." else ".") (base.get "property")
  else p.expr (base.get "callee") ++ textIf optional "?." ++ p.arguments base

/-- A stretch of text in a template. -/
def chunk (t : Tree) : Layout :=
  text (String.ofList (Escape.unifyLineEnds (t.text "raw").toList))

/-- The texts of a template with what stands between them. -/
def template (f : Tree → Layout) : List Tree → List Tree → Layout
  | q :: qs, e :: es => chunk q ++ text "$\x7b" ++ f e ++ closeBrace ++ template f qs es
  | qs, _ => qs.flatMap chunk

/-- A use of a value. -/
def access? (p : Printer) (t : Tree) : Option Layout :=
  match t.kind with
  | "MemberExpression" =>
    some (p.memberOf (t.get "object") (t.get "property") ++ p.memberAccess "." (t.get "property"))
  | "SuperPropExpression" => some (p.node (t.get "obj") ++ p.memberAccess "." (t.get "property"))
  | "OptionalChainingExpression" => some (p.chained t (t.flag "optional"))
  | "CallExpression" =>
    some (p.callee (t.get "callee") ++ part p.node (t.get "typeArguments") ++ p.arguments t)
  | "NewExpression" =>
    some (word "new" ++ p.expr (t.get "callee") ++ part p.node (t.get "typeArguments") ++
      part (fun _ => p.arguments t) (t.get "arguments"))
  | "TemplateLiteral" =>
    let quasis := t.seq "quasis"
    let inner := match t.get "types" with
      | .null => template p.expr quasis (t.seq "expressions")
      | types => template p.node quasis types.elements
    some (text "`" ++ inner ++ text "`")
  | "TaggedTemplateExpression" =>
    some (p.expr (t.get "tag") ++ part p.node (t.get "typeParameters") ++ p.node (t.get "template"))
  | "MetaProperty" => some (text (t.text "kind"))
  | "Import" =>
    let phase := t.text "phase"
    some (text "import" ++ (if phase = "defer" ∨ phase = "source" then text ("." ++ phase) else []))
  | _ => none

/-- An expression, or a part of one. -/
def expressionNode? (p : Printer) (t : Tree) : Option Layout :=
  match t.kind with
  | "ArrayExpression" => some (p.array t)
  | "ObjectExpression" => some (p.object t)
  | _ => (p.property? t).or ((p.operation? t).or (p.access? t))

/-! ## Markup -/

/-- Attributes, each after a blank. -/
def attributes (p : Printer) (ts : List Tree) : Layout :=
  ts.flatMap fun t => [.blank] ++
    if t.kind = "SpreadElement" then openBrace ++ p.node t ++ closeBrace else p.node t

/-- A markup element, or a part of one. -/
def markupNode? (p : Printer) (t : Tree) : Option Layout :=
  match t.kind with
  | "JSXElement" =>
    some (p.node (t.get "opening") ++ (t.seq "children").flatMap p.node ++
      part p.node (t.get "closing"))
  | "JSXFragment" => some (text "<>" ++ (t.seq "children").flatMap p.node ++ text "</>")
  | "JSXOpeningElement" =>
    some (text "<" ++ p.node (t.get "name") ++ part p.node (t.get "typeArguments") ++
      p.attributes (t.seq "attributes") ++ text (if t.flag "selfClosing" then "/>" else ">"))
  | "JSXClosingElement" => some (text "</" ++ p.node (t.get "name") ++ text ">")
  | "JSXAttribute" =>
    some (p.node (t.get "name") ++ part (fun v => text "=" ++ p.node v) (t.get "value"))
  | "JSXText" => some (text (t.text "raw"))
  | "JSXExpressionContainer" =>
    let e := t.get "expression"
    let start := t.range.start
    some (openBrace ++ (if start = 0 then [] else [.trailing (start + 1)]) ++
      (if e.kind = "JSXEmptyExpression" then [] else p.expr e) ++ closeBrace)
  | "JSXSpreadChild" => some (openBrace ++ text "..." ++ p.expr (t.get "expression") ++ closeBrace)
  | "JSXMemberExpression" => some (p.node (t.get "object") ++ text "." ++ p.node (t.get "property"))
  | "JSXNamespacedName" => some (p.node (t.get "namespace") ++ text ":" ++ p.node (t.get "name"))
  | _ => none

end SoleExport.Printer
