/-
  The grammar of markup.

  An element is a tag with attributes, and children up to the closing tag of the
  same name: text, elements, and expressions in braces.  Between tags the text is
  not divided into tokens.
-/
import SoleExport.Grammar.Uses

namespace SoleExport.Grammar

open Rule

/-! ## Names -/

/-- A name that may have two parts with a colon between them, and whether it does. -/
def colonName : Rule (Token × Option Tree) := do
  let first ← takeTagName
  if ← takeMark? ":" then
    let second ← takeTagName
    let name ← node "JSXNamespacedName" first.span.start
      [("namespace", nameTree first), ("name", nameTree second)]
    return (first, some name)
  else return (first, none)

/-- The name of an element. -/
def tagName : Rule Tree := do
  let (first, name?) ← colonName
  match name? with
  | some name => return name
  | none =>
    extend (fun object => do
      if ← takeMark? "." then
        let property ← takeTagName
        return some (← node "JSXMemberExpression" first.span.start
          [("object", object), ("property", nameTree property)])
      else return none) (identTree first false)

/-- The words of a name, down to the given depth. -/
def spelledName : Nat → Tree → List String
  | 0, _ => []
  | n + 1, t =>
    t.text "value" :: (["namespace", "name", "object", "property"].flatMap fun l =>
      match t.get l with
      | .null => []
      | part => spelledName n part)

/-- Whether two names are spelled alike. -/
def sameName (a b : Tree) : Bool := spelledName a.height a == spelledName b.height b

/-! ## Attributes -/

/-- An expression in braces, up to the closing brace, which is not taken. -/
def container (g : Grammar) : Rule Tree := do
  let start ← here
  mark "\x7b"
  let inner ← last
  let e ← if ← atMark "\x7d" then pure (spanned "JSXEmptyExpression" inner (← here) [])
    else g.sequence
  require (← atMark "\x7d")
  return spanned "JSXExpressionContainer" start ((← here) + 1) [("expression", e)]

/-- The value of an attribute. -/
def attributeValue (g : Grammar) : Rule Tree := do
  if ← atMark "\x7b" then
    let value ← g.container
    require ((value.get "expression").kind != "JSXEmptyExpression")
    mark "\x7d"
    return value
  else if ← atMark "<" then g.element false
  else
    let t ← takeAttributeText
    match t.kind with
    | .string text => return stringTree t text
    | _ => fail

/-- An attribute. -/
def tagAttribute (g : Grammar) : Rule Tree := do
  let start ← here
  if ← takeMark? "\x7b" then
    let dots ← token
    mark "..."
    let e ← enclosed g.assignment
    mark "\x7d"
    return .node "SpreadElement" [("spread", .span dots.span), ("arguments", e)]
  let (first, name?) ← colonName
  let value ← if ← takeMark? "=" then g.attributeValue else pure .null
  node "JSXAttribute" start [("name", name?.getD (nameTree first)), ("value", value)]

/-! ## Children -/

/-- The text after the current token, as a child of an element if there is any. -/
def textChild : Rule (List Tree) := do
  let t ← takeText
  if t.spelling.isEmpty then return []
  let text := Entity.decode (Escape.joinLineEnds t.spelling.toList)
  return [.node "JSXText"
    [("span", .span t.span), ("value", .str (String.ofList text)), ("raw", .str t.spelling)]]

/-- A child in braces, up to the closing brace, which is not taken. -/
def bracedChild (g : Grammar) : Rule Tree := do
  if (← next).isMark "..." then
    let start ← here
    mark "\x7b"
    mark "..."
    let e ← g.sequence
    require (← atMark "\x7d")
    return spanned "JSXSpreadChild" start ((← here) + 1) [("expression", e)]
  else g.container

/-- The children of an element, from the end of its opening tag up to its closing
    tag. -/
def children (g : Grammar) : Rule (List Tree) := do
  let first ← textChild
  let more ← many do
    if ← atClosing then return none
    let child ← if ← atMark "\x7b" then g.bracedChild else g.element true
    return some (child :: (← textChild))
  return first ++ more.flatten

/-! ## Elements -/

/-- Take the `>` that ends an element, unless text is to follow it. -/
def elementEnd (inside : Bool) : Rule Unit := do
  if inside then require (← atMark ">") else mark ">"

/-- A node that ends with the current token if text follows it, else with the
    last one. -/
def elementNode (inside : Bool) (kind : String) (start : Nat) (fields : Fields) : Rule Tree := do
  let stop ← if inside then pure (← token).span.stop else last
  return spanned kind start stop fields

/-- A fragment, read from `>` on. -/
def fragment (g : Grammar) (start : Nat) (inside : Bool) : Rule Tree := do
  let opening := spanned "JSXOpeningFragment" start (← token).span.stop []
  let children ← g.children
  let closing ← here
  takeClosing
  elementEnd inside
  let closing ← elementNode inside "JSXClosingFragment" closing []
  elementNode inside "JSXFragment" start
    [("opening", opening), ("children", .list children), ("closing", closing)]

/-- A markup element; the last `>` is left to be taken if the element stands in
    another. -/
def markupElement (g : Grammar) (inside : Bool) : Rule Tree := do
  let start ← here
  mark "<"
  if ← atMark ">" then return ← g.fragment start inside
  let name ← tagName
  let typeArguments ← g.typeArguments?
  let attributes ← many do
    if (← atMark ">") || (← atMark "/") then return none
    return some (← g.tagAttribute)
  let selfClosing ← takeMark? "/"
  let fields := [("name", name), ("attributes", .list attributes),
    ("selfClosing", .bool selfClosing), ("typeArguments", typeArguments)]
  if selfClosing then
    elementEnd inside
    let opening ← elementNode inside "JSXOpeningElement" start fields
    elementNode inside "JSXElement" start
      [("opening", opening), ("children", .list []), ("closing", .null)]
  else
    require (← atMark ">")
    let opening ← elementNode true "JSXOpeningElement" start fields
    let children ← g.children
    let closingStart ← here
    takeClosing
    let closingName ← tagName
    require (sameName name closingName)
    elementEnd inside
    let closing ← elementNode inside "JSXClosingElement" closingStart [("name", closingName)]
    elementNode inside "JSXElement" start
      [("opening", opening), ("children", .list children), ("closing", closing)]

end SoleExport.Grammar
