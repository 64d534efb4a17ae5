/-
  Layouts of functions and classes.

  An empty body stays on its line; any other block has one statement on each
  line, and a class one member.
-/
import SoleExport.Layout.Printer

namespace SoleExport.Printer

open Layout

/-! ## Blocks -/

/-- A statement with the comments at its end, and the end of its line.  After a
    block the line goes on, as in `} else {`. -/
def statement (p : Printer) (t : Tree) : Layout :=
  if t.kind = "BlockStatement" then p.node t
  else p.node t ++ [.trailing t.range.stop, .line]

/-- Lines between braces.  Comments before the closing brace stand on lines of
    their own. -/
def braced (span : Span) (content : Layout) : Layout :=
  openBrace ++ (if content.isEmpty then [.lineIf (span.stop - 1)] else content) ++
    [.leading (span.stop - 1)] ++ closeBrace

/-- A block of statements. -/
def block (p : Printer) (t : Tree) : Layout :=
  let stmts := t.seq "stmts"
  braced t.range (if stmts.isEmpty then [] else lines [] (stmts.map p.statement))

/-! ## Functions -/

/-- Decorators on lines of their own, between other things. -/
def innerDecorators (p : Printer) (ds : List Tree) : Layout :=
  if ds.isEmpty then [] else [.line] ++ ds.flatMap p.node

/-- A parameter, after its decorators. -/
def parameter (p : Printer) (t : Tree) : Layout :=
  p.innerDecorators (t.seq "decorators") ++ p.pattern (t.get "pat")

/-- A parameter of a constructor that is a field too. -/
def fieldParameter (p : Printer) (t : Tree) : Layout :=
  p.innerDecorators (t.seq "decorators") ++ wordIf ((t.text? "accessibility").isSome)
    (t.text "accessibility") ++ wordIf (t.flag "override") "override" ++
    wordIf (t.flag "readonly") "readonly" ++ p.node (t.get "param")

/-- The part of a function after its name: parameters, result type and body. -/
def signature (p : Printer) (t : Tree) : Layout :=
  part p.node (t.get "typeParameters") ++ parenthesized (p.list (t.seq "params")) ++
    p.ascription (t.get "returnType")

/-- The body of a function; a function without one ends like a statement. -/
def body (p : Printer) : Tree → Layout
  | .null => semicolon
  | b => [.blank] ++ p.node b

/-- A function with a name. -/
def functionDeclaration (p : Printer) (t : Tree) : Layout :=
  wordIf (t.flag "declare") "declare" ++ wordIf (t.flag "async") "async" ++ text "function" ++
    textIf (t.flag "generator") "*" ++ [.blank] ++ p.node (t.get "identifier") ++ p.signature t ++
    p.body (t.get "body")

/-- A function as a value. -/
def functionExpression (p : Printer) (t : Tree) : Layout :=
  wordIf (t.flag "async") "async" ++ text "function" ++ textIf (t.flag "generator") "*" ++
    part (fun i => [.blank] ++ p.node i) (t.get "identifier") ++ p.signature t ++
    p.body (t.get "body")

/-- An arrow function; its parameters always stand in parentheses.  The lines of an
    expression as its body are indented. -/
def arrow (p : Printer) (t : Tree) : Layout :=
  let body := t.get "body"
  wordIf (t.flag "async") "async" ++ part p.node (t.get "typeParameters") ++
    parenthesized (commas (row p.pattern (t.seq "params"))) ++
    part (fun r => word ":" ++ p.node r ++ [.blank]) (t.get "returnType") ++ text "=>" ++
    (if body.kind = "BlockStatement" then p.node body else indented (p.expr body))

/-! ## Classes -/

/-- Who may use a member. -/
def accessibility (t : Tree) : Layout :=
  match t.text? "accessibility" with
  | some a => word a
  | none => []

/-- What stands before the key of a member. -/
def modifiers (t : Tree) : Layout :=
  accessibility t ++ wordIf (t.flag "isStatic") "static" ++
    wordIf (t.flag "isAbstract") "abstract" ++ wordIf (t.flag "isOverride") "override"

/-- A method, getter or setter. -/
def method (p : Printer) (t : Tree) : Layout :=
  let f := t.get "function"
  (f.seq "decorators").flatMap p.node ++ modifiers t ++ wordIf (f.flag "async") "async" ++
    (match t.text "kind" with
      | "getter" => word "get"
      | "setter" => word "set"
      | _ => textIf (f.flag "generator") "*") ++
    p.node (t.get "key") ++ textIf (t.flag "isOptional") "?" ++ p.signature f ++
    p.body (f.get "body")

/-- A field. -/
def field (p : Printer) (t : Tree) : Layout :=
  (t.seq "decorators").flatMap p.node ++ wordIf (t.flag "declare") "declare" ++ modifiers t ++
    wordIf (t.flag "readonly") "readonly" ++ p.node (t.get "key") ++
    textIf (t.flag "isOptional") "?" ++ textIf (t.flag "definite") "!" ++
    p.ascription (t.get "typeAnnotation") ++ p.initial (t.get "value") ++ semicolon

/-- A field that is reached through accessors of its own. -/
def accessorField (p : Printer) (t : Tree) : Layout :=
  (t.seq "decorators").flatMap p.node ++ modifiers t ++ word "accessor" ++ p.node (t.get "key") ++
    part (fun a => textIf (t.flag "definite") "!" ++ word ":" ++ p.node a)
      (t.get "typeAnnotation") ++
    p.initial (t.get "value") ++ semicolon

/-- A constructor. -/
def classConstructor (p : Printer) (t : Tree) : Layout :=
  accessibility t ++ text "constructor" ++ parenthesized (p.list (t.seq "params")) ++
    (match t.get "body" with
      | .null => semicolon
      | b => p.node b)

/-- The part of a class after its name: heritage and members. -/
def heritage (p : Printer) (t : Tree) : Layout :=
  let implemented := t.seq "implements"
  part p.node (t.get "typeParams") ++
    part (fun s => spaced "extends" ++ p.expr s ++ part p.node (t.get "superTypeParams"))
      (t.get "superClass") ++
    (if implemented.isEmpty then []
      else spaced "implements" ++ p.list implemented) ++
    [.blank] ++ openBrace ++ lines [] ((t.seq "body").map p.node) ++ closeBrace

/-- A class, declared or as a value. -/
def classNode (p : Printer) (t : Tree) : Layout :=
  wordIf (t.flag "declare") "declare" ++ (t.seq "decorators").flatMap p.node ++
    wordIf (t.flag "isAbstract") "abstract" ++ text "class" ++
    part (fun i => [.blank] ++ p.node i) (t.get "identifier") ++ p.heritage t

/-- A function or class, or a part of one. -/
def definitionNode? (p : Printer) (t : Tree) : Option Layout :=
  match t.kind with
  | "BlockStatement" => some (p.block t)
  | "Parameter" => some (p.parameter t)
  | "TsParameterProperty" => some (p.fieldParameter t)
  | "FunctionDeclaration" => some (p.functionDeclaration t)
  | "FunctionExpression" => some (p.functionExpression t)
  | "ArrowFunctionExpression" => some (p.arrow t)
  | "ClassDeclaration" | "ClassExpression" => some (p.classNode t)
  | "ClassMethod" | "PrivateMethod" => some (p.method t)
  | "ClassProperty" | "PrivateProperty" => some (p.field t)
  | "AutoAccessor" => some (p.accessorField t)
  | "Constructor" => some (p.classConstructor t)
  | "StaticBlock" => some (word "static" ++ p.node (t.get "body"))
  | "Decorator" => some (text "@" ++ p.expr (t.get "expression") ++ [.line])
  | _ => none

end SoleExport.Printer
