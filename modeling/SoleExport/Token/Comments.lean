/-
  Which token a comment belongs to.

  A comment on the line of the token before it is a trailing comment of that
  token, if the token allows it; any other is a leading comment of the next
  token.  What is left at the end of the text trails the last token.
-/
import SoleExport.Token.Basic

namespace SoleExport.Token

/-- The marks a block comment may trail. -/
def trailedMarks : List String := [";", "\x7b", "\x7d"]

/-- The words that are values; no block comment trails them. -/
def valueWords : List String := ["null", "true", "false"]

/-- Whether a block comment may trail the token. -/
def allowsBlock (t : Token) : Bool :=
  match t.kind with
  | .number _ | .bigint _ | .string _ | .regex _ _ | .markup => true
  | .word => !keywords.contains t.spelling && !valueWords.contains t.spelling
  | .mark => trailedMarks.contains t.spelling
  | _ => false

/-- Whether a line comment may trail the token. -/
def allowsLine (t : Token) : Bool := !t.isOperator

/-- Whether the comment may trail the token. -/
def allows (t : Token) (k : CommentKind) : Bool :=
  match k with
  | .line => t.allowsLine
  | .block => t.allowsBlock

/-- Whether a comment after a token trails it. -/
def trails (previous : Token) (r : Remark) : Bool :=
  !r.afterBreak &&
    (previous.allows r.comment.kind || (r.comment.kind == .block && r.beforeSemicolon))

/-- Put a comment before `next` in its place. -/
def place (previous : Option Token) (next : Token) (store : Comments) (r : Remark) : Comments :=
  match previous with
  | some p =>
    if p.trails r then store.addTrailing p.span.stop r.comment
    else if next.kind == .eof then store.addTrailing p.span.stop r.comment
    else store.addLeading next.span.start r.comment
  | none =>
    if next.kind == .eof then store.addLeading 1 r.comment
    else store.addLeading next.span.start r.comment

/-- The comments before the given tokens, the token before them being given. -/
def commentsFrom (previous : Option Token) (store : Comments) : List Token → Comments
  | [] => store
  | t :: ts => commentsFrom (some t) (t.remarks.foldl (place previous t) store) ts

/-- The comments of a text, given all of its tokens. -/
def comments (tokens : List Token) : Comments := commentsFrom none Comments.empty tokens

end SoleExport.Token
