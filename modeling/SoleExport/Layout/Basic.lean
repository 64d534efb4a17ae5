/-
  Layouts: printing in three steps.

  1. A syntax tree is laid out as a sequence of *marks*: pieces of code, blanks,
     line ends, and the places where comments may stand.  The layout of a tree
     does not depend on the comments.
  2. `Layout.fill` puts the comments in their places, which gives *pieces*.
  3. `Piece.render` writes the pieces as text, with the indentation of each line.

  No empty line is ever written: a line end on an empty line does nothing.
-/
import SoleExport.Comment

namespace SoleExport

/-! ## Marks -/

/-- A step of a layout. -/
inductive Mark where
  /-- a piece of code -/
  | code (text : String)
  /-- one blank -/
  | blank
  /-- the end of the line, unless the line is empty -/
  | line
  /-- lines from here on are indented by one more level -/
  | indent
  /-- lines from here on are indented by one level less -/
  | dedent
  /-- the leading comments of the position stand here -/
  | leading (pos : Nat)
  /-- the trailing comments of the position stand here -/
  | trailing (pos : Nat)
  /-- the trailing comments of the position stand here, after the end of an item -/
  | closing (pos : Nat)
  /-- the trailing comments of the position stand here, after an element of a list;
      they are written like leading ones -/
  | behind (pos : Nat)
  /-- the trailing comments of the position are put aside -/
  | hold (pos : Nat)
  /-- the comments put aside last are trailing comments of the position again -/
  | release (pos : Nat)
  /-- the end of the line, if leading comments are waiting at the position -/
  | lineIf (pos : Nat)
  /-- an opening parenthesis, if a leading comment that ends a line is waiting at
      the position; else a blank -/
  | openIf (pos : Nat)
  /-- the closing parenthesis of the last `openIf`, if it opened one -/
  | closeIf
deriving DecidableEq, Repr, Inhabited

/-- A sequence of marks. -/
abbrev Layout := List Mark

/-! ## Pieces -/

/-- A step of writing text. -/
inductive Piece where
  /-- a piece of code -/
  | code (text : String)
  /-- a complete comment -/
  | comment (c : Comment)
  /-- one blank -/
  | blank
  /-- the end of the line, unless the line is empty -/
  | line
  /-- one more level of indentation -/
  | indent
  /-- one level of indentation less -/
  | dedent
deriving DecidableEq, Repr, Inhabited

/-- A comment before the code it belongs to. -/
def Comment.before (c : Comment) : List Piece :=
  match c.kind with
  | .line => [.comment c, .line]
  | .block => [.comment c, .blank]

/-- A comment after the code it belongs to. -/
def Comment.after (c : Comment) : List Piece :=
  match c.kind with
  | .line => [.blank, .comment c, .line]
  | .block => [.blank, .comment c, .blank]

/-- A comment after the end of an item. -/
def Comment.atEnd (c : Comment) : List Piece :=
  match c.kind with
  | .line => [.blank, .comment c, .line]
  | .block => [.blank, .comment c]

namespace Layout

/-- The comments not printed yet, which `openIf`s opened a parenthesis, and the
    comments put aside, last ones first. -/
structure Filling where
  comments : Comments
  opened : List Bool
  held : List (List Comment)
deriving DecidableEq, Repr, Inhabited

/-- Put the comments in the place of one mark. -/
def fillMark (s : Filling) : Mark → List Piece × Filling
  | .code t => ([.code t], s)
  | .blank => ([.blank], s)
  | .line => ([.line], s)
  | .indent => ([.indent], s)
  | .dedent => ([.dedent], s)
  | .leading p =>
    let (cs, rest) := s.comments.takeLeading p
    (cs.flatMap Comment.before, { s with comments := rest })
  | .trailing p =>
    let (cs, rest) := s.comments.takeTrailing p
    (cs.flatMap Comment.after, { s with comments := rest })
  | .closing p =>
    let (cs, rest) := s.comments.takeTrailing p
    (cs.flatMap Comment.atEnd, { s with comments := rest })
  | .behind p =>
    let (cs, rest) := s.comments.takeTrailing p
    (cs.flatMap Comment.before, { s with comments := rest })
  | .hold p =>
    let (cs, rest) := s.comments.takeTrailing p
    ([], { s with comments := rest, held := cs :: s.held })
  | .release p =>
    match s.held with
    | cs :: held => ([], { s with comments := s.comments.addAllTrailing p cs, held })
    | [] => ([], s)
  | .lineIf p => (if s.comments.hasLeading p then [.line] else [], s)
  | .openIf p =>
    let opens := s.comments.breaksLine p
    ([if opens then .code "(" else .blank], { s with opened := opens :: s.opened })
  | .closeIf =>
    match s.opened with
    | true :: rest => ([.code ")"], { s with opened := rest })
    | _ :: rest => ([], { s with opened := rest })
    | [] => ([], s)

/-- Put the comments in their places, from the first mark to the last. -/
def fillFrom (s : Filling) : Layout → List Piece
  | [] => []
  | m :: ms =>
    let (ps, s) := fillMark s m
    ps ++ fillFrom s ms

/-- Put the comments in their places. -/
def fill (comments : Comments) (layout : Layout) : List Piece := fillFrom ⟨comments, [], []⟩ layout

end Layout

/-! ## Text -/

/-- The blanks one level of indentation is written with. -/
def indentUnit : String := "    "

/-- The blanks of some levels of indentation. -/
def indentation : Nat → String
  | 0 => ""
  | n + 1 => indentUnit ++ indentation n

/-- Where writing stands: the level of indentation, and whether the line is still
    empty. -/
structure Margin where
  level : Nat
  fresh : Bool
deriving DecidableEq, Repr, Inhabited

/-- Write text; the first text of a line is indented. -/
def Margin.write (m : Margin) (text : String) : String × Margin :=
  if text.isEmpty then ("", m)
  else if m.fresh then (indentation m.level ++ text, { m with fresh := false })
  else (text, m)

/-- Write one piece. -/
def Piece.write (m : Margin) : Piece → String × Margin
  | .code t => m.write t
  | .comment c => m.write c.written
  | .blank => m.write " "
  | .line => if m.fresh then ("", m) else ("\n", { m with fresh := true })
  | .indent => ("", { m with level := m.level + 1 })
  | .dedent => ("", { m with level := m.level - 1 })

/-- The text of pieces, in order. -/
def Piece.texts (m : Margin) : List Piece → List String
  | [] => []
  | p :: ps =>
    let (t, m) := p.write m
    t :: texts m ps

/-- Write pieces as text. -/
def Piece.render (ps : List Piece) : String := String.join (Piece.texts ⟨0, true⟩ ps)

end SoleExport
