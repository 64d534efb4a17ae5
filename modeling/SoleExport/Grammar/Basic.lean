/-
  The grammar: common parts.

  A *rule* reads a syntax tree off the tokens of a text, or fails.  A rule that
  fails leaves the reading where it stopped, so that another rule can go on from
  there (`recover`); `attempt` takes a failed rule back.  What the surroundings
  of a construct allow is kept in a `Context`.  The rules of the grammar refer to
  each other, so each takes the others as a `Grammar`; `Grammar.upTo n` is the
  grammar of texts whose constructs nest at most `n` deep.
-/
import SoleExport.Token.Comments
import SoleExport.Token.Lexer

namespace SoleExport

/-! ## Reading -/

/-- How a text is read, by the name of its file. -/
structure Dialect where
  /-- Markup is read; `<T>x` is not. -/
  markup : Bool
  /-- The text declares types only. -/
  ambient : Bool
deriving DecidableEq, Repr, Inhabited

/-- What the surroundings of a construct allow. -/
structure Context where
  /-- `await` is an operator even where nothing follows it. -/
  isAsync : Bool
  /-- `yield` is an operator. -/
  isGenerator : Bool
  /-- What is declared exists elsewhere. -/
  isAmbient : Bool
  /-- `in` is an operator. -/
  takesIn : Bool
  /-- A `:` belongs to a condition `a ? b : c` that has not ended. -/
  colonAwaited : Bool
  /-- The construct is a branch of a condition or stands in one. -/
  inCondition : Bool
  /-- A type is not checked by `extends`. -/
  plainTypes : Bool
deriving DecidableEq, Repr, Inhabited

/-- The context of the items of a module. -/
def Context.outer (isAmbient : Bool) : Context :=
  ⟨false, false, isAmbient, true, false, false, false⟩

/-- A text that is being read. -/
structure Reading where
  /-- The current token. -/
  token : Token
  /-- The text from the current token on. -/
  front : List Char
  /-- The text after the current token. -/
  rest : List Char
  /-- Where the token before the current one ended. -/
  last : Nat
  /-- The tokens before the current one, last first. -/
  done : List Token
  context : Context
  /-- Where the last expression started that may be an arrow function. -/
  arrowStart : Nat
  dialect : Dialect
  /-- More than the number of tokens in the text. -/
  size : Nat
deriving Inhabited

/-- A rule of the grammar. -/
abbrev Rule (α : Type) := EStateM Unit Reading α

namespace Rule

/-- The current token. -/
def token : Rule Token := return (← get).token

/-- The dialect. -/
def dialect : Rule Dialect := return (← get).dialect

/-- The context. -/
def context : Rule Context := return (← get).context

/-- Where the current token starts. -/
def here : Rule Nat := return (← get).token.span.start

/-- Where the last token ended. -/
def last : Rule Nat := return (← get).last

/-- No tree. -/
def fail {α : Type} : Rule α := throw ()

/-- Fail unless the condition holds. -/
def require (b : Bool) : Rule Unit := if b then pure () else fail

/-- What is there, or failure. -/
def given {α : Type} (a? : Option α) : Rule α :=
  match a? with
  | some a => pure a
  | none => fail

/-! ### Tokens -/

/-- Read on after a token that ends with `rest` following at `pos`. -/
def resume (s : Reading) (t : Token) (pos : Nat) (rest : List Char) : Reading :=
  let found := Lexer.token pos false rest
  { s with
    token := found.token, front := found.front, rest := found.rest, last := pos
    done := t :: s.done }

/-- Take the current token; what is no token cannot be taken. -/
def take : Rule Token := do
  let s ← get
  require (s.token.kind != .bad)
  set (resume s s.token s.token.span.stop s.rest)
  return s.token

/-- The current token where an operator is expected. -/
def operator : Rule Token := do
  let s ← get
  return (Lexer.widen s.token s.rest).1

/-- Take the current token where an operator is expected. -/
def takeOperator : Rule Token := do
  let s ← get
  let (t, rest) := Lexer.widen s.token s.rest
  set (resume s t t.span.stop rest)
  return t

/-- Take the regular expression that starts at the current slash. -/
def takeRegex : Rule Token := do
  let s ← get
  let (t, rest) ← given (Lexer.regex s.token (s.front.drop 1))
  set (resume s t t.span.stop rest)
  return t

/-- Take the current token and the stretch of a template after it. -/
def takeChunk : Rule Token := do
  let s ← get
  let (t, rest, pos) ← given (Lexer.chunk s.token.span.stop s.rest)
  let whole : Token := { t with span := ⟨t.span.start, pos⟩ }
  set (resume { s with done := s.token :: s.done } whole pos rest)
  return t

/-- Take the current token and the markup text after it, which a tag or a brace
    must end. -/
def takeText : Rule Token := do
  let s ← get
  let (t, front) := Lexer.markup s.token.span.stop s.rest
  let (token, rest) := Lexer.tokenAfter (Lexer.Trivia.start t.span.stop false) front
  set { s with token, front, rest, last := t.span.stop, done := t :: s.token :: s.done }
  require (token.kind != .eof)
  return t

/-- Whether `</` comes next. -/
def atClosing : Rule Bool := do
  let s ← get
  return s.token.isMark "<" && s.rest.head? == some '/'

/-- Take `</`. -/
def takeClosing : Rule Unit := do
  require (← atClosing)
  let s ← get
  let t := { s.token with spelling := "</", span := ⟨s.token.span.start, s.token.span.stop + 1⟩ }
  set (resume s t t.span.stop (s.rest.drop 1))

/-- Take the current word as a name in a tag. -/
def takeTagName : Rule Token := do
  let s ← get
  require (s.token.kind == .word)
  let (t, rest) := Lexer.tagName s.token s.front
  set (resume s t t.span.stop rest)
  return t

/-- Take the text of an attribute. -/
def takeAttributeText : Rule Token := do
  let s ← get
  let (t, rest) ← given (Lexer.attributeText s.token s.front)
  set (resume s t t.span.stop rest)
  return t

/-- The token after the current one. -/
def next : Rule Token := do
  let s ← get
  return (Lexer.token s.token.span.stop false s.rest).token

/-- Take the first half of `<<` where `<` is expected. -/
def splitShift : Rule Unit := do
  let s ← get
  if s.token.isMark "<<" then
    let middle := s.token.span.start + 1
    let first : Token := { s.token with spelling := "<", span := ⟨s.token.span.start, middle⟩ }
    let second : Token := ⟨.mark, "<", ⟨middle, middle + 1⟩, false, []⟩
    set { s with
      token := second, front := s.front.drop 1, last := middle, done := first :: s.done }
  else
    require (s.token.isMark "<")
    let _ ← take

/-! ### Choices -/

/-- Try a rule; if it fails, nothing has been read. -/
def attempt {α : Type} (r : Rule α) : Rule (Option α) := fun s =>
  match r s with
  | .ok a s => .ok (some a) s
  | .error _ _ => .ok none s

/-- Try a rule that may also say that nothing was there; then nothing has been
    read. -/
def attempt? {α : Type} (r : Rule (Option α)) : Rule (Option α) := fun s =>
  match r s with
  | .ok (some a) s => .ok (some a) s
  | .ok none _ | .error _ _ => .ok none s

/-- Try a rule; if it fails, what it has read stays read. -/
def recover {α : Type} (r : Rule α) : Rule (Option α) := fun s =>
  match r s with
  | .ok a s => .ok (some a) s
  | .error _ s => .ok none s

/-- What a rule says about the tokens ahead; nothing is read. -/
def lookAhead (r : Rule Bool) : Rule Bool := fun s =>
  match r s with
  | .ok b _ => .ok b s
  | .error _ _ => .ok false s

/-- Read in a changed context. -/
def within {α : Type} (change : Context → Context) (r : Rule α) : Rule α := fun s =>
  match r { s with context := change s.context } with
  | .ok a s' => .ok a { s' with context := s.context }
  | .error e s' => .error e { s' with context := s.context }

/-- Read what stands between brackets: no `:` is awaited, and `in` is an operator. -/
def enclosed {α : Type} (r : Rule α) : Rule α :=
  within (fun c => { c with colonAwaited := false, takesIn := true }) r

/-! ### Marks and words -/

/-- Whether the current token is the given mark. -/
def atMark (m : String) : Rule Bool := return (← token).isMark m

/-- Whether the current token is one of the given marks. -/
def atOneOf (ms : List String) : Rule Bool := return (← token).isOneOf ms

/-- Whether the current token is the given word. -/
def atWord (w : String) : Rule Bool := return (← token).isWord w

/-- Take the given mark if it comes next. -/
def takeMark? (m : String) : Rule Bool := do
  if ← atMark m then
    let _ ← take
    return true
  else return false

/-- Take the given word if it comes next. -/
def takeWord? (w : String) : Rule Bool := do
  if ← atWord w then
    let _ ← take
    return true
  else return false

/-- Take the given mark. -/
def mark (m : String) : Rule Unit := do require (← takeMark? m)

/-- Take the given word. -/
def word (w : String) : Rule Unit := do require (← takeWord? w)

/-- Whether a statement may end before the current token. -/
def atEnd : Rule Bool := do
  let t ← token
  return t.afterBreak || t.isMark ";" || t.isMark "\x7d" || t.kind == .eof

/-- Take the end of a statement, if it is there: `;`, or nothing where a statement
    may end. -/
def takeEnd? : Rule Bool := do
  if ← takeMark? ";" then return true else atEnd

/-- The end of a statement. -/
def semicolon : Rule Unit := do require (← takeEnd?)

/-! ### Repetition -/

/-- Repeat a rule until it says that nothing follows, at most `n` times. -/
def repeatUpTo {α : Type} (r : Rule (Option α)) : Nat → Rule (List α)
  | 0 => fail
  | n + 1 => do
    match ← r with
    | none => return []
    | some a => return a :: (← repeatUpTo r n)

/-- Repeat a rule until it says that nothing follows; each time it reads
    something. -/
def many {α : Type} (r : Rule (Option α)) : Rule (List α) := do repeatUpTo r (← get).size

/-- Extend what has been read as long as a rule finds more, at most `n` times. -/
def extendUpTo {α : Type} (r : α → Rule (Option α)) : Nat → α → Rule α
  | 0, _ => fail
  | n + 1, a => do
    match ← r a with
    | none => return a
    | some a => extendUpTo r n a

/-- Extend what has been read as long as a rule finds more; each time it reads
    something. -/
def extend {α : Type} (r : α → Rule (Option α)) (a : α) : Rule α := do
  extendUpTo r (← get).size a

/-- A rule once, and again after each of the given marks. -/
def sepBy {α : Type} (separator : String) (r : Rule α) : Rule (List α) := do
  let first ← r
  let more ← many do
    if ← takeMark? separator then return some (← r) else return none
  return first :: more

/-- Elements separated by commas, up to where the list ends; a comma may stand
    before the end. -/
def commaListUntil {α : Type} (ends : Rule Bool) (element : Rule α) : Rule (List α) :=
  many do
    if ← ends then return none
    let a ← element
    if !(← takeMark? ",") then require (← ends)
    return some a

/-- Elements separated by commas, up to the mark that ends them; a comma may
    stand before it. -/
def commaList {α : Type} (close : String) (element : Rule α) : Rule (List α) := do
  let elements ← commaListUntil (atMark close) element
  mark close
  return elements

/-! ## Nodes -/

/-- A node that ends with the last token. -/
def node (kind : String) (start : Nat) (fields : Fields) : Rule Tree :=
  return .node kind (("span", .span ⟨start, ← last⟩) :: fields)

/-- A node of the given extent. -/
def spanned (kind : String) (start stop : Nat) (fields : Fields) : Tree :=
  .node kind (("span", .span ⟨start, stop⟩) :: fields)

/-- What stands where nothing that can be read does. -/
def invalid (start stop : Nat) : Tree := spanned "Invalid" start stop []

/-- The scope of every node that has one. -/
def scope : String × Tree := ("ctxt", .num ⟨0, 0⟩)

/-- A real identifier. -/
def identTree (t : Token) (optional : Bool) : Tree :=
  .node "Identifier"
    [("span", .span t.span), scope, ("value", .str t.spelling), ("optional", .bool optional)]

/-- A real identifier that may have a type. -/
def bindingTree (t : Token) (optional : Bool) (typing : Tree) : Tree :=
  .node "Identifier"
    [("span", .span t.span), scope, ("value", .str t.spelling), ("optional", .bool optional),
      ("typeAnnotation", typing)]

/-- A mere name. -/
def nameTree (t : Token) : Tree :=
  .node "Identifier" [("span", .span t.span), ("value", .str t.spelling)]

/-- The name of a private member. -/
def privateTree (t : Token) : Tree :=
  .node "PrivateName" [("span", .span t.span), ("value", .str t.spelling)]

/-- A string literal. -/
def stringTree (t : Token) (text : String) : Tree :=
  .node "StringLiteral" [("span", .span t.span), ("value", .str text), ("raw", .str t.spelling)]

/-- A numeral. -/
def numberTree (t : Token) (value : Tree) : Tree :=
  .node "NumericLiteral" [("span", .span t.span), ("value", value), ("raw", .str t.spelling)]

/-- The digits of a number in base 2 ^ 32, the last one first. -/
def wordsOf : Nat → Nat → List Tree
  | 0, _ => []
  | fuel + 1, n =>
    if n = 0 then [] else .num ⟨n % Nat.pow 2 32, 0⟩ :: wordsOf fuel (n / Nat.pow 2 32)

/-- The value of a big integer: its sign and its digits. -/
def bigValue (isNegative : Bool) (n : Nat) : Tree :=
  let sign : Int := if n = 0 then 0 else if isNegative then -1 else 1
  .list [.num ⟨sign, 0⟩, .list (wordsOf (Nat.log2 n + 1) n)]

/-- A numeral of a big integer. -/
def bigTree (t : Token) (value : Nat) : Tree :=
  .node "BigIntLiteral"
    [("span", .span t.span), ("value", bigValue false value), ("raw", .str t.spelling)]

/-- The name of a variable that is referred to. -/
def ident : Rule Tree := do
  let t ← token
  require t.isName
  let _ ← take
  return identTree t false

/-- Any word as a real identifier. -/
def anyIdent : Rule Tree := do
  let t ← token
  require t.isAnyWord
  let _ ← take
  return identTree t false

/-- The name of something new. -/
def newIdent : Rule Tree := do
  let t ← token
  require t.isBindable
  let _ ← take
  return identTree t false

/-- Any word as a mere name. -/
def anyName : Rule Tree := do
  let t ← token
  require t.isAnyWord
  let _ ← take
  return nameTree t

/-- A string literal. -/
def stringLiteral : Rule Tree := do
  let t ← token
  match t.kind with
  | .string text =>
    let _ ← take
    return stringTree t text
  | _ => fail

/-- A numeral. -/
def numeral : Rule Tree := do
  let t ← token
  match t.kind with
  | .number value =>
    let _ ← take
    return numberTree t value
  | .bigint value =>
    let _ ← take
    return bigTree t value
  | _ => fail

/-- A tree or nothing. -/
def orNull : Option Tree → Tree
  | some t => t
  | none => .null

/-- A tree with its fields changed one by one. -/
def mapFields (f : String → Tree → Tree) : Tree → Tree
  | .node k fs => .node k (fs.map fun (l, t) => (l, f l t))
  | t => t

/-- A tree with one field set. -/
def withField (label : String) (value : Tree) : Tree → Tree :=
  mapFields fun l t => if l = label then value else t

/-- A tree that starts earlier than it was read. -/
def startingAt (start : Nat) (t : Tree) : Tree :=
  withField "span" (.span ⟨start, t.range.stop⟩) t

/-- A tree that ends later than it was read. -/
def endingAt (stop : Nat) (t : Tree) : Tree :=
  withField "span" (.span ⟨t.range.start, stop⟩) t

/-- An expression in the place of a pattern; a variable there may have a type. -/
def asPattern : Tree → Tree
  | .node "Identifier" fs => .node "Identifier" (fs ++ [("typeAnnotation", .null)])
  | t => t

/-! ## Templates -/

/-- Whether a stretch of text ends its template. -/
def isLastChunk (t : Token) : Bool :=
  match t.kind with
  | .chunk _ _ last => last
  | _ => true

/-- Whether a stretch of text stands for something. -/
def hasText (t : Token) : Bool :=
  match t.kind with
  | .chunk _ text _ => text.isSome
  | _ => false

/-- The node of a stretch of text in a template. -/
def chunkTree (t : Token) : Tree :=
  match t.kind with
  | .chunk raw text last =>
    .node "TemplateElement" [("span", .span t.span), ("tail", .bool last),
      ("cooked", (text.map Tree.str).getD .null), ("raw", .str raw)]
  | _ => .null

/-- The rest of a template after the given stretch of text: the parts in braces
    and all stretches of text.  Only a tag takes texts that stand for nothing. -/
def templateRest (isTagged : Bool) (part : Rule Tree) :
    Nat → Token → Rule (List Tree × List Tree)
  | 0, _ => fail
  | n + 1, t => do
    require (isTagged || hasText t)
    if isLastChunk t then return ([], [chunkTree t])
    let tree ← part
    require (← atMark "\x7d")
    let (trees, chunks) ← templateRest isTagged part n (← takeChunk)
    return (tree :: trees, chunkTree t :: chunks)

/-- A template whose parts in braces are read by the given rule. -/
def template (isTagged : Bool) (label : String) (part : Rule Tree) : Rule Tree := do
  let start ← here
  require (← atMark "`")
  let (trees, chunks) ← templateRest isTagged (enclosed part) (← get).size (← takeChunk)
  node "TemplateLiteral" start [(label, .list trees), ("quasis", .list chunks)]

end Rule

/-! ## Grammars -/

/-- The rules that others refer to.  A rule that refers to another reads a token
    before, or the other does so before it refers to a third: a text of `n`
    characters needs no more than `2 * n` levels. -/
structure Grammar where
  /-- an expression without commas at its top -/
  assignment : Rule Tree
  /-- an operand of a binary operator -/
  unary : Rule Tree
  /-- an expression of operators that bind more tightly than the given one -/
  binary : Nat → Rule Tree
  /-- an operand with the uses of it that follow -/
  access : Rule Tree
  /-- an operand with the uses of it that follow, calls excepted -/
  callee : Rule Tree
  /-- a type -/
  type : Rule Tree
  /-- a type without operators between types -/
  operandType : Rule Tree
  /-- a new variable or a pattern of new variables, without a default value -/
  pattern : Rule Tree
  /-- a statement; it may be a declaration if the flag is set -/
  statement : Bool → Rule Tree
  /-- a statement, import or export -/
  moduleItem : Rule Tree
  /-- a markup element; what follows it is text if it stands in another element -/
  element : Bool → Rule Tree

/-- The grammar of nothing. -/
def Grammar.empty : Grammar where
  assignment := Rule.fail
  unary := Rule.fail
  binary _ := Rule.fail
  access := Rule.fail
  callee := Rule.fail
  type := Rule.fail
  operandType := Rule.fail
  pattern := Rule.fail
  statement _ := Rule.fail
  moduleItem := Rule.fail
  element _ := Rule.fail

end SoleExport
