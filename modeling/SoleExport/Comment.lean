/-
  Comments and where they are kept.

  Comments are no part of the syntax tree.  They are kept beside it, at the
  position of the token they belong to: *leading* ones at its start, *trailing*
  ones at its end.  A printer takes the comments of a position when it comes
  by, so that each is printed at most once.
-/
import SoleExport.Span

namespace SoleExport

/-- The two ways to write a comment. -/
inductive CommentKind where
  /-- `//` up to the end of the line -/
  | line
  /-- between `/*` and `*/` -/
  | block
deriving DecidableEq, Repr, Inhabited

/-- A comment; its text excludes the delimiters. -/
structure Comment where
  kind : CommentKind
  text : String
deriving DecidableEq, Repr, Inhabited

/-- A comment with its delimiters. -/
def Comment.written (c : Comment) : String :=
  match c.kind with
  | .line => "//" ++ c.text
  | .block => "/*" ++ c.text ++ "*/"

/-- Whether a line ends in or after a comment. -/
def Comment.breaksLine (c : Comment) : Bool :=
  c.kind == .line || c.text.any fun ch => ch == '\n' || ch == '\r'

/-- The comments of a text by the positions they are kept at, in the order in
    which they were put there. -/
structure Comments where
  leading : List (Nat × Comment)
  trailing : List (Nat × Comment)
deriving DecidableEq, Repr, Inhabited

namespace Comments

/-- No comments. -/
def empty : Comments := ⟨[], []⟩

/-- Put a comment at the start of a token. -/
def addLeading (s : Comments) (pos : Nat) (c : Comment) : Comments :=
  { s with leading := s.leading ++ [(pos, c)] }

/-- Put a comment at the end of a token. -/
def addTrailing (s : Comments) (pos : Nat) (c : Comment) : Comments :=
  { s with trailing := s.trailing ++ [(pos, c)] }

/-- The comments kept at a position; there are none at position 0. -/
def kept (entries : List (Nat × Comment)) (pos : Nat) : List Comment :=
  if pos = 0 then [] else (entries.filter fun e => e.1 == pos).map Prod.snd

/-- The entries of the other positions. -/
def rest (entries : List (Nat × Comment)) (pos : Nat) : List (Nat × Comment) :=
  entries.filter fun e => e.1 != pos

/-- Take the leading comments of a position. -/
def takeLeading (s : Comments) (pos : Nat) : List Comment × Comments :=
  (kept s.leading pos, { s with leading := rest s.leading pos })

/-- Take the trailing comments of a position. -/
def takeTrailing (s : Comments) (pos : Nat) : List Comment × Comments :=
  (kept s.trailing pos, { s with trailing := rest s.trailing pos })

/-- Put comments at the end of a token. -/
def addAllTrailing (s : Comments) (pos : Nat) (cs : List Comment) : Comments :=
  cs.foldl (fun s c => s.addTrailing pos c) s

/-- Whether leading comments are waiting at a position. -/
def hasLeading (s : Comments) (pos : Nat) : Bool := !(kept s.leading pos).isEmpty

/-- Whether a leading comment that ends a line is waiting at a position. -/
def breaksLine (s : Comments) (pos : Nat) : Bool := (kept s.leading pos).any Comment.breaksLine

end Comments

end SoleExport
