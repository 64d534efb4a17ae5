/-
  Layouts of trees and modules.

  Every node starts with the comments before it.  Each item of a module body
  ends its line, and `export = e` is closed by a semicolon, so that the next
  line cannot be read as a part of `e`; the comments behind it come after the
  semicolon.
-/
import SoleExport.Layout.Expressions
import SoleExport.Layout.Patterns
import SoleExport.Layout.Statements
import SoleExport.Layout.Types
import SoleExport.SourceFile

namespace SoleExport

open Layout

/-- The layout of a node without the comments before it; nothing for a kind that
    cannot be printed. -/
def Printer.content (p : Printer) (t : Tree) : Layout :=
  ((p.atom? t).or <| (p.patternNode? t).or <| (p.typeNode? t).or <| (p.definitionNode? t).or <|
    (p.expressionNode? t).or <| (p.markupNode? t).or <| (p.plainStatement? t).or <|
    (p.loop? t).or <| (p.declaration? t).or <| (p.specifier? t).or <| p.moduleItem? t).getD []

namespace Layout

/-- The kinds of nodes that do not ask for the comments before them. -/
def kindsWithoutLeading : List String :=
  ["", "Computed", "ImportNamespaceSpecifier", "JSXExpressionContainer"]

/-- The comments before a node. -/
def before (t : Tree) : Layout :=
  if kindsWithoutLeading.contains t.kind then [] else [.leading t.extent.start]

/-- The layout of the nodes of a tree down to the given depth. -/
def nodeUpTo : Nat → Tree → Layout
  | 0, _ => []
  | depth + 1, t => before t ++ Printer.content ⟨nodeUpTo depth⟩ t

/-- The layout of a tree. -/
def ofTree (t : Tree) : Layout := nodeUpTo t.height t

/-- The layout of an item of a module body. -/
def ofItem (i : Item) : Layout :=
  let node := ofTree i.toTree
  match i with
  | .exportEquals s _ => node ++ semicolon ++ [.closing s.stop, .line]
  | _ => node ++ [.trailing i.span.stop, .line]

/-- The layout of a module: the interpreter, the items, and the comments at the
    end. -/
def ofModule (m : Module) : Layout :=
  (match m.interpreter with
    | some s => text ("#!" ++ s) ++ [.line]
    | none => []) ++
  m.body.flatMap ofItem ++ [.closing m.span.stop]

end Layout

/-- Print a module with comments. -/
def Module.print (m : Module) (comments : Comments) : String :=
  Piece.render (Layout.fill comments (Layout.ofModule m))

end SoleExport
