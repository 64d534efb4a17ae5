/-
  Reading the text of a module.

  `parse` reads a text into a module and its comments, or fails if the text is
  not in the grammar.  The name of the file decides the dialect.
-/
import SoleExport.Grammar.Modules
import SoleExport.SourceFile

namespace SoleExport

open Rule

/-- The grammar whose rules refer to each other as in `g`. -/
def Grammar.step (g : Grammar) : Grammar where
  assignment := g.assignmentExpression
  unary := g.unaryOperand
  binary := g.binaryExpression
  access := g.accessExpression
  callee := g.calleeExpression
  type := g.fullType
  operandType := g.operand
  pattern := g.bindingPattern true
  statement := g.anyStatement
  moduleItem := g.anyItem
  element := g.markupElement

/-- The grammar of texts in which at most `n` rules are open at a time. -/
def Grammar.upTo : Nat → Grammar
  | 0 => Grammar.empty
  | n + 1 => (Grammar.upTo n).step

/-- The items of a module, up to the end of the text. -/
def moduleItems (item : Rule Tree) : Rule (List Tree) := many do
  if (← token).kind == .eof then return none
  return some (← item)

/-- How the text of a file is read. -/
def Dialect.ofName (name : String) : Dialect where
  markup := ".tsx".toList.isSuffixOf name.toList
  ambient := isDeclarationName name

/-- A text without the mark of its encoding. -/
def withoutMark : List Char → List Char
  | '\uFEFF' :: cs => cs
  | cs => cs

/-- A text at its start, after the line that names the interpreter. -/
def Reading.start (dialect : Dialect) (text : List Char) : Reading :=
  let (before, pos, rest) : List Token × Nat × List Char :=
    match Lexer.interpreter? text with
    | some (t, rest) => ([t], t.span.stop, rest)
    | none => ([], 1, text)
  let found := Lexer.token pos true rest
  { token := found.token, front := found.front, rest := found.rest, last := pos, done := before
    context := Context.outer dialect.ambient, arrowStart := 0, dialect, size := text.length + 2 }

/-- The interpreter among the tokens read. -/
def Reading.interpreter? (s : Reading) : Option String :=
  (s.done.find? fun t => t.kind == .interpreter).map Token.spelling

/-- A module and its comments. -/
structure Parsed where
  module : Module
  comments : Comments

/-- A text that is not in the grammar. -/
structure ParseError where
  name : String
deriving DecidableEq, Repr, Inhabited

/-- What is said about a text that is not in the grammar. -/
def ParseError.message (e : ParseError) : String := "failed to parse " ++ e.name

/-- Where a module lies whose reading started and ended as given: from its first
    token, or the line that names the interpreter, to its last token. -/
def moduleSpan (start stop : Reading) : Span :=
  if start.interpreter?.isSome then ⟨1, stop.last⟩
  else if start.token.kind == .eof then ⟨1, 1⟩
  else ⟨start.token.span.start, stop.last⟩

/-- Read the text of the file with the given name. -/
def parse (name : String) (source : String) : Except ParseError Parsed :=
  let text := withoutMark source.toList
  let start := Reading.start (Dialect.ofName name) text
  let grammar := Grammar.upTo (2 * text.length + 8)
  match moduleItems grammar.moduleItem start with
  | .error _ _ => .error ⟨name⟩
  | .ok items s =>
    .ok {
      module := ⟨moduleSpan start s, start.interpreter?, items.map Item.ofTree⟩
      comments := Token.comments (s.token :: s.done).reverse }

end SoleExport
