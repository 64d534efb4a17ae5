/-
  The grammar of types.

  From the inside out: atoms (`atomicType`), types of lists and of members
  (`postfixType`), type operators (`operand`), intersections and unions
  (`joined`), functions (`plainType`) and conditions (`fullType`).  Members of
  interfaces and of object types are the same.  The parameters of functions are
  here too, since types have them.
-/
import SoleExport.Grammar.Basic

namespace SoleExport.Grammar

open Rule

/-! ## Names, arguments and parameters -/

/-- A type after a colon. -/
def typing (g : Grammar) : Rule Tree := do
  let start ← here
  mark ":"
  node "TsTypeAnnotation" start [("typeAnnotation", ← g.type)]

/-- A type after a colon, if there is one. -/
def typing? (g : Grammar) : Rule Tree := do
  if ← atMark ":" then g.typing else return .null

/-- A name in which dots lead from one namespace to the next; it may end in a dot. -/
def qualifiedName : Rule Tree := do
  let start ← here
  extend (fun left => do
    if !(← takeMark? ".") then return none
    if !(← token).isAnyWord then return none
    return some (← node "TsQualifiedName" start [("left", left), ("right", ← anyName)]))
    (← anyIdent)

/-- Whether type arguments may start here. -/
def atAngle : Rule Bool := atOneOf ["<", "<<"]

/-- Type arguments. -/
def typeArguments (g : Grammar) : Rule Tree := do
  let start ← here
  splitShift
  let params ← commaList ">" g.type
  node "TsTypeParameterInstantiation" start [("params", .list params)]

/-- Type arguments, if there are any. -/
def typeArguments? (g : Grammar) : Rule Tree := do
  if ← atAngle then g.typeArguments else return .null

/-- Whether what a modifier may stand before starts with the token. -/
def mayFollowModifier (t : Token) : Bool :=
  t.isAnyWord || t.isString || t.isNumber || t.kind == .privateName ||
    t.isOneOf ["[", "\x7b", "*", "..."]

/-- Take the current word if it is one of the given ones and a modifier. -/
def takeModifier? (ws : List String) : Rule (Option String) := do
  let t ← token
  if t.isWordOf ws && mayFollowModifier (← next) then
    let _ ← take
    return some t.spelling
  else return none

/-- The words that say who may use a member. -/
def accessWords : List String := ["public", "private", "protected"]

/-- Take a modifier that has no meaning where it stands, if there is one. -/
def takeIdleModifier : Rule Unit := do
  let t ← token
  let following ← next
  if t.isWordOf ("readonly" :: accessWords) &&
      (following.isAnyWord || following.isOneOf ["\x7b", "["]) then
    let _ ← take

/-- A type after a mark or word, if that comes next. -/
def typeAfter (g : Grammar) (taken : Rule Bool) : Rule Tree := do
  if ← taken then g.type else return .null

/-- The words that may stand before a type parameter. -/
def parameterModifiers : Rule (List String) := many do
  if (← atWord "out") && (← next).isWord "extends" then return none
  takeModifier? (accessWords ++ ["readonly", "abstract", "const", "override", "in", "out"])

/-- A type parameter. -/
def typeParameter (g : Grammar) : Rule Tree := do
  let start ← here
  let ws ← parameterModifiers
  let name ← anyIdent
  let constraint ← g.typeAfter (takeWord? "extends")
  let default ← g.typeAfter (takeMark? "=")
  node "TsTypeParameter" start
    [("name", name), ("in", .bool (ws.contains "in")), ("out", .bool (ws.contains "out")),
      ("const", .bool (ws.contains "const")), ("constraint", constraint), ("default", default)]

/-- Type parameters. -/
def typeParameters (g : Grammar) : Rule Tree := do
  let start ← here
  mark "<"
  let params ← commaList ">" g.typeParameter
  node "TsTypeParameterDeclaration" start [("parameters", .list params)]

/-- Type parameters, if there are any. -/
def typeParameters? (g : Grammar) : Rule Tree := do
  if ← atMark "<" then g.typeParameters else return .null

/-! ## Result types -/

/-- A type after nothing, with the node of a type after a colon. -/
def bareTyping (g : Grammar) (start : Nat) : Rule Tree := do
  node "TsTypeAnnotation" start [("typeAnnotation", ← g.type)]

/-- What a statement about a parameter ends with: `is T`, if it states that. -/
def predicateEnd (g : Grammar) (start : Nat) (states asserts : Bool) (subject : Tree) :
    Rule Tree := do
  let typing ← if states then do
      word "is"
      g.bareTyping (← here)
    else pure .null
  node "TsTypePredicate" start
    [("asserts", .bool asserts), ("paramName", subject), ("typeAnnotation", typing)]

/-- A result type after the given mark: a type, or a statement about a parameter
    (`x is T`, `asserts x`). -/
def resultTyping (g : Grammar) (m : String) : Rule Tree := do
  let start ← here
  mark m
  let inner ← here
  let asserts := (← atWord "asserts") && (← next).isName
  if asserts then word "asserts"
  let following ← next
  let states := (← token).isName && following.isWord "is" && !following.afterBreak
  if !(asserts || states) then g.bareTyping start
  else
    let subject ← anyIdent
    let predicate ← g.predicateEnd inner states asserts subject
    node "TsTypeAnnotation" start [("typeAnnotation", predicate)]

/-- A result type after a colon, if there is one. -/
def resultTyping? (g : Grammar) : Rule Tree := do
  if ← atMark ":" then g.resultTyping ":" else return .null

/-! ## Parameters of functions -/

/-- A pattern with the type after it.  The type is a part of every pattern but a
    name. -/
def typed (g : Grammar) (start : Nat) (pattern : Tree) : Rule Tree := do
  let typing ← g.typing?
  let pattern := withField "typeAnnotation" typing pattern
  if typing.isPresent && pattern.kind != "Identifier" then
    return withField "span" (.span ⟨start, ← last⟩) pattern
  else return pattern

/-- A pattern that stands for a parameter, with `?`, its type and its default
    value. -/
def formalPattern (g : Grammar) : Rule Tree := do
  let start ← here
  takeIdleModifier
  let inner ← here
  let pattern ← g.pattern
  let pattern ← if ← takeMark? "?" then pure (withField "optional" (.bool true) pattern)
    else pure pattern
  let pattern ← g.typed inner pattern
  if ← takeMark? "=" then
    node "AssignmentPattern" start [("left", pattern), ("right", ← enclosed g.assignment)]
  else return pattern

/-- A parameter for what is left, with its type. -/
def restParameter (g : Grammar) : Rule Tree := do
  let dots ← token
  let start := dots.span.start
  mark "..."
  let argument ← g.pattern
  let argument ← if ← takeMark? "=" then
      node "AssignmentPattern" start [("left", argument), ("right", ← enclosed g.assignment)]
    else pure argument
  let typing ← g.typing?
  let rest ← node "RestElement" start
    [("rest", .span dots.span), ("argument", argument), ("typeAnnotation", typing)]
  let _ ← takeMark? "?"
  return rest

/-- A pattern that stands for a parameter of any kind. -/
def anyParameter (g : Grammar) : Rule Tree := do
  if ← atMark "..." then g.restParameter else g.formalPattern

/-- The parameters of a type that is a function; they have no default values. -/
def signatureParameters (g : Grammar) : Rule (List Tree) := do
  mark "("
  let params ← commaList ")" g.anyParameter
  require (params.all fun p => p.kind != "AssignmentPattern")
  return params

/-! ## Members -/

/-- The end of a member: a semicolon, a comma, or nothing where a line ends. -/
def memberEnd : Rule Unit := do
  if ← takeMark? "," then return
  else semicolon

/-- The key of a member, and whether it is computed. -/
def memberKey (g : Grammar) : Rule (Tree × Bool) := do
  if ← takeMark? "[" then
    let key ← enclosed g.assignment
    mark "]"
    return (key, true)
  let t ← take
  match t.kind with
  | .word => return (identTree t false, false)
  | .string text => return (stringTree t text, false)
  | .number value => return (numberTree t value, false)
  | .privateName => return (privateTree t, false)
  | _ => fail

/-- A signature that says how the type is called or constructed. -/
def callSignature (g : Grammar) (kind : String) (start : Nat) : Rule Tree := do
  let typeParams ← g.typeParameters?
  let params ← g.signatureParameters
  let typing ← g.resultTyping?
  memberEnd
  node kind start
    [("params", .list params), ("typeAnnotation", typing), ("typeParams", typeParams)]

/-- `[key: string]: T` -/
def indexSignature (g : Grammar) (start : Nat) (readonly static : Bool) : Rule Tree := do
  mark "["
  let t ← token
  require t.isAnyWord
  let _ ← take
  let typingStart ← here
  if !(← takeMark? ",") then mark ":"
  let keyTyping ← g.bareTyping typingStart
  let key := endingAt (← last) (bindingTree t false keyTyping)
  mark "]"
  let typing ← g.typing?
  memberEnd
  node "TsIndexSignature" start
    [("params", .list [key]), ("typeAnnotation", typing), ("readonly", .bool readonly),
      ("static", .bool static)]

/-- Whether an index signature comes next. -/
def atIndexSignature : Rule Bool := lookAhead do
  mark "["
  let _ ← ident
  atOneOf [":", ","]

/-- A property or a method of a type. -/
def propertySignature (g : Grammar) (start : Nat) (readonly : Bool) : Rule Tree := do
  let (key, computed) ← g.memberKey
  let optional ← takeMark? "?"
  if (← atMark "(") || (← atMark "<") then
    require (!readonly)
    let typeParams ← g.typeParameters?
    let params ← g.signatureParameters
    let typing ← g.resultTyping?
    memberEnd
    node "TsMethodSignature" start
      [("key", key), ("computed", .bool computed), ("optional", .bool optional),
        ("params", .list params), ("typeAnn", typing), ("typeParams", typeParams)]
  else
    let typing ← g.typing?
    memberEnd
    node "TsPropertySignature" start
      [("readonly", .bool readonly), ("key", key), ("computed", .bool computed),
        ("optional", .bool optional), ("typeAnnotation", typing)]

/-- `get k(): T` or `set k(x)` in a type. -/
def accessorSignature (g : Grammar) : Rule Tree := do
  let start ← here
  let isGetter ← takeWord? "get"
  if !isGetter then word "set"
  let (key, computed) ← g.memberKey
  if isGetter then
    mark "("
    mark ")"
    let typing ← g.typing?
    memberEnd
    node "TsGetterSignature" start
      [("key", key), ("computed", .bool computed), ("typeAnnotation", typing)]
  else
    let params ← g.signatureParameters
    let param ← given params.head?
    memberEnd
    node "TsSetterSignature" start
      [("key", key), ("computed", .bool computed), ("param", param)]

/-- A member of an interface or an object type. -/
def typeMember (g : Grammar) : Rule Tree := do
  let start ← here
  if (← atMark "(") || (← atMark "<") then
    return ← g.callSignature "TsCallSignatureDeclaration" start
  if (← atWord "new") && (← next).isOneOf ["(", "<"] then
    word "new"
    return ← g.callSignature "TsConstructSignatureDeclaration" start
  let readonly := (← takeModifier? ["readonly"]).isSome
  if ← atIndexSignature then return ← g.indexSignature start readonly false
  let accessor ← if readonly then pure none else attempt g.accessorSignature
  match accessor with
  | some t => return t
  | none => g.propertySignature start readonly

/-- Members in braces. -/
def typeMembers (g : Grammar) : Rule Tree := do
  mark "\x7b"
  let members ← many do
    if ← takeMark? "\x7d" then return none
    return some (← g.typeMember)
  return .list members

/-! ## Mapped types -/

/-- Whether a mapped type comes next. -/
def atMappedType : Rule Bool := lookAhead do
  mark "\x7b"
  if ← atOneOf ["+", "-"] then
    let _ ← take
    return ← atWord "readonly"
  let _ ← takeWord? "readonly"
  mark "["
  let _ ← ident
  atWord "in"

/-- A sign or nothing before what the rule takes: `+`, `-` or true, null if it is not
    there. -/
def signed (taken : Rule Bool) : Rule Tree := do
  if ← atOneOf ["+", "-"] then
    let sign ← take
    require (← taken)
    return .str sign.spelling
  else if ← taken then return .bool true
  else return .null

/-- `{ [K in T]: U }` -/
def mappedType (g : Grammar) : Rule Tree := do
  let start ← here
  mark "\x7b"
  let readonly ← signed (takeWord? "readonly")
  mark "["
  let paramStart ← here
  let name ← anyIdent
  word "in"
  let constraint ← g.type
  let param ← node "TsTypeParameter" paramStart
    [("name", name), ("in", .bool false), ("out", .bool false), ("const", .bool false),
      ("constraint", constraint), ("default", .null)]
  let nameType ← g.typeAfter (takeWord? "as")
  mark "]"
  let optional ← signed (takeMark? "?")
  let type ← g.typeAfter (takeMark? ":")
  semicolon
  mark "\x7d"
  node "TsMappedType" start
    [("readonly", readonly), ("typeParam", param), ("nameType", nameType), ("optional", optional),
      ("typeAnnotation", type)]

/-! ## Types -/

/-- The names of the types that are built in. -/
def typeKeywords : List String :=
  ["any", "boolean", "bigint", "never", "number", "object", "string", "symbol", "unknown",
    "undefined", "intrinsic", "void", "null"]

/-- The opposite of a number. -/
def negated : Tree → Tree
  | .num d => .num ⟨-d.mantissa, d.scale⟩
  | t => t

/-- A numeral after a minus sign. -/
def negativeNumeral : Rule Tree := do
  mark "-"
  let t ← take
  let literal (kind : String) (value : Tree) : Tree :=
    .node kind [("span", .span t.span), ("value", value), ("raw", .str ("-" ++ t.spelling))]
  match t.kind with
  | .number value => return literal "NumericLiteral" (negated value)
  | .bigint value => return literal "BigIntLiteral" (bigValue true value)
  | _ => fail

/-- A literal as a type. -/
def literalType (g : Grammar) : Rule Tree := do
  let start ← here
  let t ← token
  let literal ← if t.isString then stringLiteral
    else if t.isNumeral then numeral
    else if t.isWordOf ["true", "false"] then do
      let _ ← take
      node "BooleanLiteral" start [("value", .bool (t.isWord "true"))]
    else if t.isMark "-" then negativeNumeral
    else template false "types" g.type
  node "TsLiteralType" start [("literal", literal)]

/-- What is asked of the source of an import type, after a comma. -/
def importOptions (g : Grammar) : Rule Tree := do
  let start ← here
  mark "\x7b"
  word "with"
  mark ":"
  require (← atMark "\x7b")
  let options ← enclosed g.assignment
  let _ ← takeMark? ","
  mark "\x7d"
  node "TsImportCallOptions" start [("with", options)]

/-- The source of an import type; anything else in its place counts as an empty
    one. -/
def importSource : Rule Tree := do
  if (← token).isString then stringLiteral
  else
    let t ← take
    return stringTree { t with spelling := "\"\"" } ""

/-- `import("m").T` -/
def importType (g : Grammar) : Rule Tree := do
  let start ← here
  word "import"
  mark "("
  let argument ← importSource
  let options ← if ← takeMark? "," then
      if ← atMark "\x7b" then g.importOptions else pure .null
    else pure .null
  mark ")"
  let qualifier ← if ← takeMark? "." then qualifiedName else pure .null
  let arguments ← g.typeArguments?
  node "TsImportType" start
    [("argument", argument), ("qualifier", qualifier), ("typeArguments", arguments),
      ("attributes", options)]

/-- `typeof a.b` -/
def typeQuery (g : Grammar) : Rule Tree := do
  let start ← here
  word "typeof"
  let name ← if ← atWord "import" then g.importType else qualifiedName
  let arguments ← if (← token).afterBreak then pure .null else g.typeArguments?
  node "TsTypeQuery" start [("exprName", name), ("typeArguments", arguments)]

/-- The label of an element of a tuple type. -/
def tupleLabel : Rule Tree := do
  let start ← here
  let dots ← token
  let isRest ← takeMark? "..."
  let t ← token
  require t.isAnyWord
  let _ ← take
  let label ← if ← takeMark? "?" then pure (endingAt (← last) (bindingTree t true .null))
    else pure (bindingTree t false .null)
  mark ":"
  if isRest then
    node "RestElement" start
      [("rest", .span dots.span), ("argument", label), ("typeAnnotation", .null)]
  else return label

/-- An element of a tuple type, with a label if it has one. -/
def tupleElement (g : Grammar) : Rule Tree := do
  let start ← here
  let label ← attempt tupleLabel
  let type ← if ← takeMark? "..." then node "TsRestType" start [("typeAnnotation", ← g.type)]
    else do
      let type ← g.type
      if ← takeMark? "?" then node "TsOptionalType" start [("typeAnnotation", type)]
      else pure type
  node "TsTupleElement" start [("label", orNull label), ("ty", type)]

/-- Whether no element of a tuple type that must be there follows one that need
    not. -/
def tupleInOrder (elements : List Tree) : Bool :=
  (elements.dropWhile fun e => (e.get "ty").kind != "TsOptionalType").all fun e =>
    (e.get "ty").kind == "TsOptionalType" || (e.get "ty").kind == "TsRestType"

/-- A tuple type. -/
def tupleType (g : Grammar) : Rule Tree := do
  let start ← here
  mark "["
  let elements ← commaList "]" g.tupleElement
  require (tupleInOrder elements)
  node "TsTupleType" start [("elemTypes", .list elements)]

/-- The type `this`, or a statement about it. -/
def thisType (g : Grammar) (start : Nat) (asserts : Bool) : Rule Tree := do
  let inner ← here
  word "this"
  let subject ← node "TsThisType" inner []
  let t ← token
  if asserts then g.predicateEnd start (t.isWord "is") true subject
  else if t.isWord "is" && !t.afterBreak then g.predicateEnd start true false subject
  else return subject

/-- The keywords that can still name a type. -/
def typeNames : List String := ["void", "yield", "null", "await", "break"]

/-- A type that starts with a word. -/
def wordType (g : Grammar) : Rule Tree := do
  let start ← here
  let t ← token
  if t.isWordOf ["true", "false"] then g.literalType
  else if t.isWord "this" then g.thisType start false
  else if t.isWord "asserts" && (← next).isWord "this" then
    word "asserts"
    g.thisType start true
  else if t.isWord "typeof" then g.typeQuery
  else if t.isWord "import" then g.importType
  else if typeKeywords.contains t.spelling && !(← next).isMark "." then
    let _ ← take
    node "TsKeywordType" start [("kind", .str t.spelling)]
  else
    require (t.isName || t.isWordOf typeNames)
    takeIdleModifier
    let name ← qualifiedName
    let params ← if (← token).afterBreak then pure .null else g.typeArguments?
    node "TsTypeReference" start [("typeName", name), ("typeParams", params)]

/-- A type that needs no parentheses anywhere. -/
def atomicType (g : Grammar) : Rule Tree := do
  let start ← here
  let t ← token
  if t.isAnyWord then g.wordType
  else if t.isMark "\x7b" then
    if ← atMappedType then g.mappedType
    else
      let members ← g.typeMembers
      node "TsTypeLiteral" start [("members", members)]
  else if t.isMark "[" then g.tupleType
  else if t.isMark "(" then
    let _ ← take
    let type ← g.type
    mark ")"
    node "TsParenthesizedType" start [("typeAnnotation", type)]
  else g.literalType

/-- A type with the brackets after it. -/
def postfixType (g : Grammar) : Rule Tree := do
  let start ← here
  let first ← g.atomicType
  extend (fun type => do
    if (← token).afterBreak then return none
    if !(← takeMark? "[") then return none
    if ← takeMark? "]" then return some (← node "TsArrayType" start [("elemType", type)])
    let index ← g.type
    mark "]"
    return some (← node "TsIndexedAccessType" start
      [("readonly", .bool false), ("objectType", type), ("indexType", index)])) first

/-- Types with an operator between them, which may stand before the first too. -/
def joined (operator kind : String) (part : Rule Tree) : Rule Tree := do
  let start ← here
  let _ ← takeMark? operator
  match ← sepBy operator part with
  | [type] => return type
  | types => node kind start [("types", .list types)]

/-- The parameters of the function that a parenthesis would open, skipped as far as
    they tell a function. -/
def opensFunction (g : Grammar) : Rule Bool := lookAhead do
  mark "("
  if ← atOneOf [")", "..."] then return true
  takeIdleModifier
  let t ← token
  if t.isName || t.isWord "this" then
    let _ ← take
  else
    require (← atOneOf ["\x7b", "["])
    let _ ← g.pattern
  if ← atOneOf [":", ",", "?", "="] then return true
  mark ")"
  atMark "=>"

/-- The type of a function, or of a constructor after `new`. -/
def functionType (g : Grammar) (isNew : Bool) : Rule Tree := do
  let start ← here
  let isAbstract ← if isNew then takeWord? "abstract" else pure false
  if isNew then word "new"
  let typeParams ← g.typeParameters?
  let params ← g.signatureParameters
  let result ← g.resultTyping "=>"
  let fields := [("params", .list params), ("typeParams", typeParams), ("typeAnnotation", result)]
  if isNew then node "TsConstructorType" start (fields ++ [("isAbstract", .bool isAbstract)])
  else node "TsFunctionType" start fields

/-- What a type must extend to be inferred, if it is told; a `?` behind it takes it
    back where it starts a condition. -/
def inferBound? (plain : Rule Tree) : Rule (Option Tree) := attempt? do
  let plainTypes := (← context).plainTypes
  word "extends"
  let bound ← within (fun c => { c with plainTypes := true }) plain
  if plainTypes || !(← atMark "?") then return some bound else return none

/-- The words that are operators on types. -/
def typeOperators : List String := ["keyof", "unique", "readonly"]

/-- A type without operators between types; `plain` reads a type without a condition. -/
def operandWith (g : Grammar) (plain : Rule Tree) : Rule Tree := do
  let start ← here
  let t ← token
  if t.isWordOf typeOperators then
    let _ ← take
    node "TsTypeOperator" start [("op", .str t.spelling), ("typeAnnotation", ← g.operandType)]
  else if t.isWord "infer" then
    word "infer"
    let inner ← here
    let name ← anyIdent
    let bound ← inferBound? plain
    let param ← node "TsTypeParameter" inner
      [("name", name), ("in", .bool false), ("out", .bool false), ("const", .bool false),
        ("constraint", orNull bound), ("default", .null)]
    node "TsInferType" start [("typeParam", param)]
  else g.postfixType

/-- A type in which no condition stands outside parentheses, its operands being read
    by the given rule. -/
def plainTypeOf (g : Grammar) (operand : Rule Tree) : Rule Tree := do
  let t ← token
  if t.isMark "<" || (t.isMark "(" && (← g.opensFunction)) then g.functionType false
  else if t.isWord "new" || (t.isWord "abstract" && (← next).isWord "new") then g.functionType true
  else joined "|" "TsUnionType" (joined "&" "TsIntersectionType" operand)

/-- A type without operators between types. -/
def operand (g : Grammar) : Rule Tree := g.operandWith (g.plainTypeOf g.operandType)

/-- A type in which no condition stands outside parentheses. -/
def plainType (g : Grammar) : Rule Tree := g.plainTypeOf g.operand

/-- A type. -/
def fullType (g : Grammar) : Rule Tree := within (fun c => { c with plainTypes := false }) do
  let start ← here
  let check ← g.plainType
  if (← token).afterBreak then return check
  if !(← takeWord? "extends") then return check
  let bound ← within (fun c => { c with plainTypes := true }) g.plainType
  mark "?"
  let yes ← g.type
  mark ":"
  let no ← g.type
  node "TsConditionalType" start
    [("checkType", check), ("extendsType", bound), ("trueType", yes), ("falseType", no)]

end SoleExport.Grammar
