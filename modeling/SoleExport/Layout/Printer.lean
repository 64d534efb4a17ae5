/-
  What the layouts of all nodes share.

  A node is laid out by its kind from the layouts of its parts.  A `Printer`
  says how the parts are laid out, so that each kind can be treated in the
  module it belongs to; `Layout.ofTree` ties them together.  Comments are asked for
  by position, so it matters where a node starts and ends (`Tree.extent`).
-/
import SoleExport.Layout.Basic
import SoleExport.Tree

namespace SoleExport

/-- Where a node lies.  Some nodes have no span of their own, and the span of a name
    leaves out its type. -/
def Tree.extent (t : Tree) : Span :=
  let start (u : Tree) : Nat := match u with
    | .span s => s.start
    | u => u.range.start
  match t.kind with
  | "Identifier" =>
    let type := t.get "typeAnnotation"
    ⟨t.range.start, if type.isPresent then type.range.stop else t.range.stop⟩
  | "KeyValueProperty" | "KeyValuePatternProperty" =>
    let value := t.get "value"
    let type := value.get "typeAnnotation"
    let stop := if value.kind = "Identifier" ∧ type.isPresent then type.range.stop
      else value.range.stop
    ⟨start (t.get "key"), stop⟩
  | "MethodProperty" => ⟨start (t.get "key"), t.range.stop⟩
  | "SpreadElement" => ⟨start (t.get "spread"), (t.get "arguments").range.stop⟩
  | "" =>
    let e := t.get "expression"
    ⟨if (t.get "spread").isPresent then start (t.get "spread") else e.range.start, e.range.stop⟩
  | _ => t.range

/-- How the parts of a node are laid out. -/
structure Printer where
  /-- The layout of a node. -/
  node : Tree → Layout

namespace Layout

/-- Code. -/
def text (s : String) : Layout := [.code s]

/-- Code and a blank after it. -/
def word (s : String) : Layout := [.code s, .blank]

/-- Code between two blanks. -/
def spaced (s : String) : Layout := [.blank, .code s, .blank]

/-- A word, if the flag is set. -/
def wordIf (flag : Bool) (s : String) : Layout := if flag then word s else []

/-- Code, if the flag is set. -/
def textIf (flag : Bool) (s : String) : Layout := if flag then text s else []

/-- The end of a statement. -/
def semicolon : Layout := text ";"

/-- `{` -/
def openBrace : Layout := text "\x7b"

/-- `}` -/
def closeBrace : Layout := text "\x7d"

/-- Layouts with a separator between them. -/
def separated (separator : Layout) : List Layout → Layout
  | [] => []
  | [l] => l
  | l :: ls => l ++ separator ++ separated separator ls

/-- Layouts on one line, separated by commas. -/
def commas (ls : List Layout) : Layout := separated (word ",") ls

/-- Layouts in parentheses. -/
def parenthesized (l : Layout) : Layout := text "(" ++ l ++ text ")"

/-- Lines that a layout spreads over are indented. -/
def indented (l : Layout) : Layout := [.indent] ++ l ++ [.dedent]

/-- Layouts on indented lines of their own. -/
def lines (separator : Layout) (ls : List Layout) : Layout :=
  if ls.isEmpty then [.line]
  else [.line, .indent] ++ separated (separator ++ [.line]) ls ++ [.dedent, .line]

/-- The elements of a list, each with the comments that trail it. -/
def column (f : Tree → Layout) (ts : List Tree) : List Layout :=
  ts.map fun t => f t ++ [.behind t.extent.stop]

/-- The elements of a list on one line, each with the comments around it. -/
def row (f : Tree → Layout) (ts : List Tree) : List Layout :=
  ts.map fun t => [.trailing t.extent.start] ++ f t ++ [.behind t.extent.stop]

end Layout

namespace Printer

open Layout

/-- An optional part: nothing if it is absent. -/
def part (f : Tree → Layout) : Tree → Layout
  | .null => []
  | t => f t

/-- An expression, with the comments at its end. -/
def expr (p : Printer) (t : Tree) : Layout := p.node t ++ [.trailing t.range.stop]

/-- A pattern, with the comments at its end. -/
def pattern (p : Printer) : Tree → Layout
  | .null => []
  | t => p.node t ++ [.trailing t.extent.stop]

/-- Nodes on one line, separated by commas. -/
def list (p : Printer) (ts : List Tree) : Layout := commas (row p.node ts)

/-- A type after a colon. -/
def ascription (p : Printer) : Tree → Layout := part fun t => word ":" ++ p.node t

/-- A value after `=`. -/
def initial (p : Printer) : Tree → Layout := part fun t => spaced "=" ++ p.expr t

end Printer

end SoleExport
