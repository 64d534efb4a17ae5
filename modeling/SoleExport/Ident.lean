/-
  Identifiers and the expressions made of them.

  An expression matters to the default export only in so far as it is an
  identifier, possibly in parentheses (`Expr.ident?`): such an export designates
  a variable, any other exports the value of the expression.
-/
import SoleExport.Tree

namespace SoleExport

/-! ## Identifiers -/

/-- A real identifier: a name with a scope. -/
structure Ident where
  span : Span
  /-- The scope the name is resolved in. -/
  ctxt : Nat
  name : String
  /-- Whether the name is followed by `?`. -/
  optional : Bool
deriving DecidableEq, Repr, Inhabited

namespace Ident

/-- An identifier written by no one, standing in for the text at `span`. -/
def generated (name : String) (span : Span) : Ident := ⟨span, 0, name, false⟩

/-- The labelled parts of an identifier. -/
def toFields (i : Ident) : Fields :=
  [("span", .span i.span), ("ctxt", .num ⟨i.ctxt, 0⟩), ("value", .str i.name),
    ("optional", .bool i.optional)]

/-- The tree of an identifier. -/
def toTree (i : Ident) : Tree := .node "Identifier" i.toFields

/-- The identifier among labelled parts that hold nothing else. -/
def ofFields? (fs : Fields) : Option Ident :=
  match fs.lookup "span", fs.lookup "ctxt", fs.lookup "value", fs.lookup "optional" with
  | some (.span s), some (.num ⟨.ofNat c, 0⟩), some (.str v), some (.bool o) =>
    if fs.length = 4 then some ⟨s, c, v, o⟩ else none
  | _, _, _, _ => none

/-- The identifier a tree consists of. -/
def ofTree? : Tree → Option Ident
  | .node k fs => if k = "Identifier" then ofFields? fs else none
  | _ => none

end Ident

/-! ## Expressions -/

/-- An expression, seen as an identifier in any number of parentheses or as
    something else. -/
inductive Expr where
  /-- `x` -/
  | ident (i : Ident)
  /-- `(e)` -/
  | paren (span : Span) (inner : Expr)
  /-- any other expression -/
  | other (tree : Tree)
deriving DecidableEq, Repr, Inhabited

namespace Expr

/-- The identifier an expression consists of, looking through parentheses. -/
def ident? : Expr → Option Ident
  | .ident i => some i
  | .paren _ e => e.ident?
  | .other _ => none

/-- The tree of an expression. -/
def toTree : Expr → Tree
  | .ident i => i.toTree
  | .paren s e => .node "ParenthesisExpression" [("span", .span s), ("expression", e.toTree)]
  | .other t => t

mutual
/-- The expression with the given tree. -/
def ofTree : Tree → Expr
  | .node k fs =>
    if k = "ParenthesisExpression" then
      match Tree.spanOf? fs, ofFields? fs with
      | some s, some e => .paren s e
      | _, _ => .other (.node k fs)
    else
      match Ident.ofTree? (.node k fs) with
      | some i => .ident i
      | none => .other (.node k fs)
  | t => .other t
/-- The expression among labelled parts. -/
def ofFields? : Fields → Option Expr
  | [] => none
  | (l, t) :: fs => if l = "expression" then some (ofTree t) else ofFields? fs
end

/-- The names of the real identifiers of an expression. -/
def identifiers : Expr → List String
  | .ident i => [i.name]
  | .paren _ e => e.identifiers
  | .other t => t.identifiers

end Expr

end SoleExport
