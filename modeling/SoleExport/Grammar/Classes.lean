/-
  The grammar of classes.

  A member is a row of modifiers and a key; what follows tells a constructor, a
  method and a field apart.  A word such as `static` or `get` is a modifier only
  if a key follows it, and is itself the key otherwise (`namedBy?`).
-/
import SoleExport.Grammar.Functions

namespace SoleExport.Grammar

open Rule

/-! ## Heads of members -/

/-- What is known of a member before its key. -/
structure MemberHead where
  start : Nat
  decorators : List Tree
  /-- The word that says who may use it, if there is one. -/
  access : Option String
  isDeclared : Bool := false
  /-- Whether `static` stands before all other modifiers but that word. -/
  isStaticFirst : Bool := false
  isStatic : Bool := false
  isAbstract : Bool := false
  isOverride : Bool := false
  isReadonly : Bool := false

/-- A head with one more modifier. -/
def MemberHead.add (h : MemberHead) (w : String) : MemberHead :=
  match w with
  | "static" => { h with isStatic := true }
  | "abstract" => { h with isAbstract := true }
  | "override" => { h with isOverride := true }
  | "readonly" => { h with isReadonly := true }
  | _ => h

/-- Who may use the member. -/
def MemberHead.accessTree (h : MemberHead) : Tree := (h.access.map Tree.str).getD .null

/-- Whether a method goes on with the current token. -/
def atMethod : Rule Bool := atOneOf ["(", "<"]

/-- Whether a field goes on or ends with the current token; the end of the line
    counts if the flag is set. -/
def atField (linewise : Bool) : Rule Bool := do
  if ← atOneOf ["!", ":", "=", "\x7d"] then return true
  if linewise then atEnd else atMark ";"

/-- The key of a member of a class. -/
def memberKeyOf (g : Grammar) : Rule Tree := do
  let t ← token
  if t.kind == .privateName then
    let _ ← take
    return privateTree t
  else g.propertyKey

/-- Whether a key names the constructor. -/
def isConstructorKey (key : Tree) : Bool :=
  (key.kind == "Identifier" || key.kind == "StringLiteral") && key.text "value" == "constructor"

/-! ## Constructors -/

/-- A parameter of a constructor; with modifiers it is a field too. -/
def constructorParameter (g : Grammar) : Rule Tree := do
  let start ← here
  let ds ← g.decorators
  if ← atMark "..." then
    let pattern ← g.restParameter
    return ← node "Parameter" start [("decorators", .list ds), ("pat", pattern)]
  let access ← takeModifier? accessWords
  let isOverride := (← takeModifier? ["override"]).isSome
  let isReadonly := (← takeModifier? ["readonly"]).isSome
  let pattern ← g.formalPattern
  if access.isNone && !isOverride && !isReadonly then
    node "Parameter" start [("decorators", .list ds), ("pat", pattern)]
  else
    require (pattern.kind == "Identifier" || pattern.kind == "AssignmentPattern")
    node "TsParameterProperty" start
      [("decorators", .list ds), ("accessibility", (access.map Tree.str).getD .null),
        ("override", .bool isOverride), ("readonly", .bool isReadonly), ("param", pattern)]

/-- A constructor, read from its parameters on.  Types that have no place in it are
    dropped. -/
def constructor (g : Grammar) (h : MemberHead) (key : Tree) (optional : Bool) : Rule Tree :=
  enclosed <| inFunction false false do
    let _ ← g.typeParameters?
    let params ← parameterList g.constructorParameter
    let _ ← g.typing?
    let body ← g.functionBody
    node "Constructor" h.start
      [scope, ("key", key), ("params", params), ("body", body), ("accessibility", h.accessTree),
        ("isOptional", .bool optional)]

/-! ## Methods and fields -/

/-- The kinds of methods. -/
inductive MethodKind where
  | getter
  | setter
  | method
deriving DecidableEq, Repr, Inhabited

/-- The word for a kind of method. -/
def MethodKind.text : MethodKind → String
  | .getter => "getter"
  | .setter => "setter"
  | .method => "method"

/-- A method, read from its parameters on. -/
def method (g : Grammar) (h : MemberHead) (key : Tree) (kind : MethodKind)
    (isAsync isGenerator optional : Bool) : Rule Tree := do
  let fields ← g.functionFields isAsync isGenerator h.decorators
  let span : Span := ⟨h.start, ← last⟩
  node (if key.kind = "PrivateName" then "PrivateMethod" else "ClassMethod") h.start
    [("key", key), ("function", .node "" (("span", .span span) :: fields)),
      ("kind", .str kind.text), ("isStatic", .bool h.isStaticFirst),
      ("accessibility", h.accessTree), ("isAbstract", .bool h.isAbstract),
      ("isOptional", .bool optional), ("isOverride", .bool h.isOverride)]

/-- A field, read from its type on; `isAccessor` says that it is reached through
    accessors of its own. -/
def classField (g : Grammar) (h : MemberHead) (key : Tree) (optional isAccessor : Bool) :
    Rule Tree := do
  require (!isConstructorKey key)
  let definite ← if optional then pure false else takeMark? "!"
  let typing ← g.typing?
  let value ← if ← takeMark? "=" then enclosed (inFunction false false g.assignment)
    else pure .null
  let _ ← takeEnd?
  let common := [("key", key), ("value", value), ("typeAnnotation", typing),
    ("isStatic", .bool h.isStatic), ("decorators", .list h.decorators),
    ("accessibility", h.accessTree), ("isOverride", .bool h.isOverride),
    ("definite", .bool definite)]
  let abstract := ("isAbstract", Tree.bool h.isAbstract)
  let flags := [("isOptional", Tree.bool optional), ("readonly", .bool h.isReadonly)]
  if isAccessor then node "AutoAccessor" h.start (abstract :: common)
  else if key.kind = "PrivateName" then node "PrivateProperty" h.start (scope :: common ++ flags)
  else
    node "ClassProperty" h.start
      (("declare", .bool h.isDeclared) :: abstract :: common ++ flags)

/-- The member whose key is the word just taken, if it is no modifier. -/
def namedBy? (g : Grammar) (h : MemberHead) (t : Token) (linewise : Bool) :
    Rule (Option Tree) := do
  if ← atMethod then return some (← g.method h (nameTree t) .method false false false)
  else if (← atField linewise) || (← atMark "?") then
    let optional ← takeMark? "?"
    return some (← g.classField h (nameTree t) optional false)
  else return none

/-- A member whose key has just been read. -/
def keyedMember (g : Grammar) (h : MemberHead) (key : Tree) (isAccessor : Bool) : Rule Tree := do
  let optional ← takeMark? "?"
  if ← atMethod then
    if isConstructorKey key then g.constructor h key optional
    else g.method h key .method false false optional
  else
    let t ← token
    let name := if key.kind = "Identifier" then key.text "value" else ""
    let isAccess := (name = "get" || name = "set") && !(← atField false) &&
      !(t.afterBreak && t.isMark "*")
    if !isAccess && (← atField true) then g.classField h key optional isAccessor
    else if isAccess then
      let key ← g.memberKeyOf
      g.method h key (if name = "get" then .getter else .setter) false false optional
    else
      require (name = "async" && !t.afterBreak)
      let overrides := (← takeModifier? ["override"]).isSome
      let isGenerator ← takeMark? "*"
      let key ← g.memberKeyOf
      require (!isConstructorKey key)
      let optional ← if optional then pure true else takeMark? "?"
      let h := { h with isOverride := h.isOverride || overrides }
      g.method h key .method true isGenerator optional

/-- A block that runs when the class is made, from its brace on. -/
def staticBlock (g : Grammar) (start : Nat) : Rule Tree := do
  node "StaticBlock" start [("body", ← inFunction false false g.block)]

/-- A member after `declare`, the words that say who may use it, and `static`. -/
def modifiedMember (g : Grammar) (h : MemberHead) : Rule Tree := do
  let ws ← many do
    if (← atWord "static") && (← next).isMark "\x7b" then return none
    takeModifier? ["abstract", "readonly", "override", "static"]
  let h := ws.foldl MemberHead.add h
  let t ← token
  let isAccessor ← takeWord? "accessor"
  if isAccessor then
    match ← g.namedBy? h t true with
    | some m => return m
    | none => pure ()
  if h.isStatic && (← atMark "\x7b") then return ← g.staticBlock h.start
  if (← atWord "static") && (← next).isMark "\x7b" then
    let start ← here
    word "static"
    return ← g.staticBlock start
  if !h.isAbstract && !h.isOverride && h.access.isNone && (← atIndexSignature) then
    return ← g.indexSignature h.start h.isReadonly h.isStatic
  if ← takeMark? "*" then
    let key ← g.memberKeyOf
    return ← g.method h key .method false true false
  g.keyedMember h (← g.memberKeyOf) isAccessor

/-- A member of a class. -/
def classMember (g : Grammar) : Rule Tree := do
  let start ← here
  let decorators ← g.decorators
  let first ← token
  let declared ← takeWord? "declare"
  let access ← takeModifier? accessWords
  let t ← if declared then pure first else token
  let declared ← if declared then pure true else takeWord? "declare"
  let h : MemberHead := { start, decorators, access }
  if declared then
    match ← g.namedBy? h t true with
    | some m => return m
    | none => pure ()
  let h := { h with isDeclared := declared }
  let t ← token
  let isStatic ← takeWord? "static"
  if isStatic then
    match ← g.namedBy? h t false with
    | some m => return m
    | none => pure ()
  g.modifiedMember { h with isStaticFirst := isStatic, isStatic }

/-! ## Classes -/

/-- A value with the type arguments of it. -/
def heritage (g : Grammar) : Rule (Tree × Tree) := do
  let value ← g.access
  if value.kind = "TsInstantiation" then
    return (value.get "expression", value.get "typeArguments")
  else return (value, ← g.typeArguments?)

/-- A type that a class or an interface builds on. -/
def heritageType (g : Grammar) : Rule Tree := do
  let start ← here
  let (expression, arguments) ← g.heritage
  node "TsExpressionWithTypeArguments" start
    [("expression", expression), ("typeArguments", arguments)]

/-- Types that a class or an interface builds on. -/
def heritageTypes (g : Grammar) : Rule (List Tree) :=
  commaListUntil (do
    let t ← token
    return t.isMark "\x7b" || t.isWordOf ["extends", "implements"]) g.heritageType

/-- The class that a class extends, if it is told; only the first one counts. -/
def superclass? (g : Grammar) : Rule (Tree × Tree) := do
  if !(← takeWord? "extends") then return (.null, .null)
  let first ← g.heritage
  if ← takeMark? "," then
    let _ ← g.heritageTypes
  if ← takeWord? "extends" then
    let _ ← g.heritage
  return first

/-- The types that a class implements; only the first list counts. -/
def implemented (g : Grammar) : Rule (List Tree) := do
  if !(← takeWord? "implements") then return []
  let first ← g.heritageTypes
  if ← takeWord? "implements" then
    let _ ← g.heritageTypes
  return first

/-- The members of a class in braces. -/
def classBody (g : Grammar) : Rule (List Tree) := do
  mark "\x7b"
  many do
    let start ← here
    if ← takeMark? ";" then return some (← node "EmptyStatement" start [])
    if ← takeMark? "\x7d" then return none
    return some (← g.classMember)

/-- The name of a class, which may have to be there. -/
def className (named : Bool) : Rule Tree := do
  if named then
    require !(← atWord "let")
    newIdent
  else if (← token).isName then ident
  else return .null

/-- A class from `class` on, which may start earlier; it may have to have a name. -/
def classDefinition (g : Grammar) (kind : String) (named isAbstract : Bool) (start : Nat)
    (ds : List Tree) (more : Fields) : Rule Tree := do
  word "class"
  let name ← className named
  let typeParams ← g.typeParameters?
  let (parent, parentArguments) ← g.superclass?
  let implemented ← g.implemented
  let (parent, parentArguments) ← if ← takeWord? "extends" then do
      let late ← g.heritage
      pure (if parent.isPresent then (parent, parentArguments) else late)
    else pure (parent, parentArguments)
  let body ← enclosed g.classBody
  node kind start
    (("identifier", name) :: more ++
      [scope, ("decorators", .list ds), ("body", .list body), ("superClass", parent),
        ("isAbstract", .bool isAbstract), ("typeParams", typeParams),
        ("superTypeParams", parentArguments), ("implements", .list implemented)])

end SoleExport.Grammar
