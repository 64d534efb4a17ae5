/-
  Labelled syntax trees.

  The text of a module is read into, and printed from, one kind of tree: a node
  has a kind (`CallExpression`, `TsArrayType`, …) and labelled fields.  Only
  the top level of a module is looked at in detail (`Item`); everything below
  it is carried as a `Tree`.

  * `Tree.field? l` is the field labelled `l` of a node;
  * `Tree.identifiers` lists the names of all real identifiers of a tree: a node
    of kind `Identifier` is real if it has a scope (the field `ctxt`); without
    one it is a mere name, such as a property after a dot;
  * `Tree.height` bounds the recursion of whatever walks a tree by its fields.
-/
import SoleExport.Span

namespace SoleExport

/-- The decimal number `mantissa * 10 ^ (-scale)`. -/
structure Decimal where
  mantissa : Int
  scale : Nat
deriving DecidableEq, Repr, Inhabited

/-- A syntax tree with labelled fields. -/
inductive Tree where
  /-- an absent part -/
  | null
  /-- a flag -/
  | bool (flag : Bool)
  /-- a numeric value -/
  | num (value : Decimal)
  /-- a piece of text -/
  | str (text : String)
  /-- a position in the source -/
  | span (range : Span)
  /-- a sequence of parts -/
  | list (elements : List Tree)
  /-- a node; its kind is empty if it has none -/
  | node (kind : String) (fields : List (String × Tree))
deriving Repr, Inhabited

/-- The labelled parts of a node. -/
abbrev Fields := List (String × Tree)

namespace Tree

/-! ## Equality -/

mutual
/-- Equality of trees is decidable. -/
def decEq : (t u : Tree) → Decidable (t = u)
  | .null, .null => isTrue rfl
  | .bool a, .bool b => decidable_of_iff (a = b) (by simp)
  | .num a, .num b => decidable_of_iff (a = b) (by simp)
  | .str a, .str b => decidable_of_iff (a = b) (by simp)
  | .span a, .span b => decidable_of_iff (a = b) (by simp)
  | .list xs, .list ys =>
    have := decEqList xs ys
    decidable_of_iff (xs = ys) (by simp)
  | .node j xs, .node k ys =>
    have := decEqFields xs ys
    decidable_of_iff (j = k ∧ xs = ys) (by simp)
  | .null, .bool _ | .null, .num _ | .null, .str _ | .null, .span _ | .null, .list _
  | .null, .node _ _ | .bool _, .null | .bool _, .num _ | .bool _, .str _ | .bool _, .span _
  | .bool _, .list _ | .bool _, .node _ _ | .num _, .null | .num _, .bool _ | .num _, .str _
  | .num _, .span _ | .num _, .list _ | .num _, .node _ _ | .str _, .null | .str _, .bool _
  | .str _, .num _ | .str _, .span _ | .str _, .list _ | .str _, .node _ _ | .span _, .null
  | .span _, .bool _ | .span _, .num _ | .span _, .str _ | .span _, .list _ | .span _, .node _ _
  | .list _, .null | .list _, .bool _ | .list _, .num _ | .list _, .str _ | .list _, .span _
  | .list _, .node _ _ | .node _ _, .null | .node _ _, .bool _ | .node _ _, .num _
  | .node _ _, .str _ | .node _ _, .span _ | .node _ _, .list _ => isFalse (by simp)
/-- Equality of lists of trees is decidable. -/
def decEqList : (xs ys : List Tree) → Decidable (xs = ys)
  | [], [] => isTrue rfl
  | x :: xs, y :: ys =>
    have := decEq x y
    have := decEqList xs ys
    decidable_of_iff (x = y ∧ xs = ys) (by simp)
  | [], _ :: _ | _ :: _, [] => isFalse (by simp)
/-- Equality of labelled parts is decidable. -/
def decEqFields : (xs ys : Fields) → Decidable (xs = ys)
  | [], [] => isTrue rfl
  | (j, x) :: xs, (k, y) :: ys =>
    have := decEq x y
    have := decEqFields xs ys
    decidable_of_iff (j = k ∧ x = y ∧ xs = ys) (by simp [and_assoc])
  | [], _ :: _ | _ :: _, [] => isFalse (by simp)
end

instance : DecidableEq Tree := decEq

/-! ## Parts of a node -/

/-- The kind of a node; empty for anything else. -/
def kind : Tree → String
  | .node k _ => k
  | _ => ""

/-- The labelled parts of a node. -/
def fields : Tree → Fields
  | .node _ fs => fs
  | _ => []

/-- The part of a node with the given label. -/
def field? (t : Tree) (label : String) : Option Tree := t.fields.lookup label

/-- The part of a node with the given label; a missing one counts as absent. -/
def get (t : Tree) (label : String) : Tree := (t.field? label).getD .null

/-- The flag with the given label; a missing one is off. -/
def flag (t : Tree) (label : String) : Bool :=
  match t.get label with
  | .bool b => b
  | _ => false

/-- The text with the given label, if there is one. -/
def text? (t : Tree) (label : String) : Option String :=
  match t.get label with
  | .str s => some s
  | _ => none

/-- The text with the given label, empty if there is none. -/
def text (t : Tree) (label : String) : String := (t.text? label).getD ""

/-- The elements of a sequence; anything else has none. -/
def elements : Tree → List Tree
  | .list ts => ts
  | _ => []

/-- The sequence with the given label. -/
def seq (t : Tree) (label : String) : List Tree := (t.get label).elements

/-- Whether the part is there. -/
def isPresent : Tree → Bool
  | .null => false
  | _ => true

/-- The span among labelled parts. -/
def spanOf? (fs : Fields) : Option Span :=
  match fs.lookup "span" with
  | some (.span s) => some s
  | _ => none

/-- The span a node was written in. -/
def range (t : Tree) : Span := (spanOf? t.fields).getD Span.dummy

/-- The labelled parts other than those with the given labels. -/
def without (labels : List String) (fs : Fields) : Fields :=
  fs.filter fun f => !labels.contains f.1

/-! ## Identifiers -/

/-- The name a node itself carries as a real identifier: an `Identifier` with a
    scope. -/
def ownName? (k : String) (fs : Fields) : Option String :=
  if k = "Identifier" ∧ (fs.lookup "ctxt").isSome then
    match fs.lookup "value" with
    | some (.str s) => some s
    | _ => none
  else none

mutual
/-- The names of the real identifiers of a tree, at any depth. -/
def identifiers : Tree → List String
  | .list ts => identifiersList ts
  | .node k fs => (ownName? k fs).toList ++ identifiersFields fs
  | _ => []
/-- The names of the real identifiers of some trees. -/
def identifiersList : List Tree → List String
  | [] => []
  | t :: ts => t.identifiers ++ identifiersList ts
/-- The names of the real identifiers of labelled parts. -/
def identifiersFields : Fields → List String
  | [] => []
  | (_, t) :: fs => t.identifiers ++ identifiersFields fs
end

/-! ## Height -/

mutual
/-- One more than the height of the highest part. -/
def height : Tree → Nat
  | .list ts => heightList ts + 1
  | .node _ fs => heightFields fs + 1
  | _ => 1
/-- The greatest height of some trees. -/
def heightList : List Tree → Nat
  | [] => 0
  | t :: ts => max t.height (heightList ts)
/-- The greatest height of labelled parts. -/
def heightFields : Fields → Nat
  | [] => 0
  | (_, t) :: fs => max t.height (heightFields fs)
end

end Tree

end SoleExport
