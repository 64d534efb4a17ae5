/-
  Binding patterns.

  The left side of a declaration is a pattern: an identifier, or arrays and
  objects of patterns with rests and default values, nested to any depth.
  `Pattern.names` lists what a pattern binds, left to right, one entry for each
  binding leaf; keys, default values and type annotations bind nothing.
-/
import SoleExport.Ident

namespace SoleExport

mutual
/-- A binding pattern.  What does not matter to the bindings is kept as the
    labelled parts `others`. -/
inductive Pattern where
  /-- the gap in `[a, , b]` -/
  | hole
  /-- `x`, with its type annotation -/
  | ident (i : Ident) (ascribed : Tree)
  /-- `[p, q]` -/
  | array (elements : List Pattern) (others : List (String × Tree))
  /-- `{ k: p, x }` -/
  | object (properties : List PatternProperty) (others : List (String × Tree))
  /-- `...p` -/
  | rest (argument : Pattern) (others : List (String × Tree))
  /-- `p = e` -/
  | assign (left : Pattern) (others : List (String × Tree))
  /-- anything else, such as a member of an object; it binds nothing -/
  | other (tree : Tree)
/-- A property of an object pattern. -/
inductive PatternProperty where
  /-- `k: p` -/
  | keyValue (value : Pattern) (others : List (String × Tree))
  /-- `x` or `x = e` -/
  | shorthand (key : Ident) (ascribed : Tree) (others : List (String × Tree))
  /-- `...p` -/
  | rest (argument : Pattern) (others : List (String × Tree))
  /-- anything else -/
  | other (tree : Tree)
end

/-! ## Bindings -/

mutual
/-- The names a pattern binds, left to right. -/
def Pattern.names : Pattern → List String
  | .hole => []
  | .ident i _ => [i.name]
  | .array ps _ => Pattern.namesList ps
  | .object qs _ => PatternProperty.namesList qs
  | .rest p _ => p.names
  | .assign p _ => p.names
  | .other _ => []
/-- The names bound by the elements of an array pattern. -/
def Pattern.namesList : List Pattern → List String
  | [] => []
  | p :: ps => p.names ++ Pattern.namesList ps
/-- The names a property of an object pattern binds. -/
def PatternProperty.names : PatternProperty → List String
  | .keyValue p _ => p.names
  | .shorthand i _ _ => [i.name]
  | .rest p _ => p.names
  | .other _ => []
/-- The names bound by the properties of an object pattern. -/
def PatternProperty.namesList : List PatternProperty → List String
  | [] => []
  | q :: qs => q.names ++ PatternProperty.namesList qs
end

mutual
/-- The names of the real identifiers of a pattern: what it binds and what its
    keys, default values and annotations mention. -/
def Pattern.identifiers : Pattern → List String
  | .hole => []
  | .ident i a => i.name :: a.identifiers
  | .array ps fs => Pattern.identifiersList ps ++ Tree.identifiersFields fs
  | .object qs fs => PatternProperty.identifiersList qs ++ Tree.identifiersFields fs
  | .rest p fs => p.identifiers ++ Tree.identifiersFields fs
  | .assign p fs => p.identifiers ++ Tree.identifiersFields fs
  | .other t => t.identifiers
/-- The names of the real identifiers of some patterns. -/
def Pattern.identifiersList : List Pattern → List String
  | [] => []
  | p :: ps => p.identifiers ++ Pattern.identifiersList ps
/-- The names of the real identifiers of a property. -/
def PatternProperty.identifiers : PatternProperty → List String
  | .keyValue p fs => p.identifiers ++ Tree.identifiersFields fs
  | .shorthand i a fs => i.name :: (a.identifiers ++ Tree.identifiersFields fs)
  | .rest p fs => p.identifiers ++ Tree.identifiersFields fs
  | .other t => t.identifiers
/-- The names of the real identifiers of some properties. -/
def PatternProperty.identifiersList : List PatternProperty → List String
  | [] => []
  | q :: qs => q.identifiers ++ PatternProperty.identifiersList qs
end

/-! ## Trees of patterns -/

/-- The tree of an identifier that may be annotated with a type. -/
def Ident.toBinding (i : Ident) (ascribed : Tree) : Tree :=
  .node "Identifier" (("typeAnnotation", ascribed) :: i.toFields)

/-- The identifier and the type annotation in a tree. -/
def Ident.ofBinding? : Tree → Option (Ident × Tree)
  | .node k fs =>
    if k = "Identifier" then
      match Ident.ofFields? (Tree.without ["typeAnnotation"] fs), fs.lookup "typeAnnotation" with
      | some i, some a => some (i, a)
      | _, _ => none
    else none
  | _ => none

mutual
/-- The tree of a pattern. -/
def Pattern.toTree : Pattern → Tree
  | .hole => .null
  | .ident i a => i.toBinding a
  | .array ps fs => .node "ArrayPattern" (("elements", .list (Pattern.toTrees ps)) :: fs)
  | .object qs fs =>
    .node "ObjectPattern" (("properties", .list (PatternProperty.toTrees qs)) :: fs)
  | .rest p fs => .node "RestElement" (("argument", p.toTree) :: fs)
  | .assign p fs => .node "AssignmentPattern" (("left", p.toTree) :: fs)
  | .other t => t
/-- The trees of some patterns. -/
def Pattern.toTrees : List Pattern → List Tree
  | [] => []
  | p :: ps => p.toTree :: Pattern.toTrees ps
/-- The tree of a property of an object pattern. -/
def PatternProperty.toTree : PatternProperty → Tree
  | .keyValue p fs => .node "KeyValuePatternProperty" (("value", p.toTree) :: fs)
  | .shorthand i a fs => .node "AssignmentPatternProperty" (("key", i.toBinding a) :: fs)
  | .rest p fs => .node "RestElement" (("argument", p.toTree) :: fs)
  | .other t => t
/-- The trees of some properties. -/
def PatternProperty.toTrees : List PatternProperty → List Tree
  | [] => []
  | q :: qs => q.toTree :: PatternProperty.toTrees qs
end

mutual
/-- The pattern with the given tree. -/
def Pattern.ofTree : Tree → Pattern
  | .null => .hole
  | .node k fs =>
    if k = "Identifier" then
      match Ident.ofBinding? (.node k fs) with
      | some (i, a) => .ident i a
      | none => .other (.node k fs)
    else if k = "ArrayPattern" then
      match Pattern.elementsOf? fs with
      | some ps => .array ps (Tree.without ["elements"] fs)
      | none => .other (.node k fs)
    else if k = "ObjectPattern" then
      match PatternProperty.propertiesOf? fs with
      | some qs => .object qs (Tree.without ["properties"] fs)
      | none => .other (.node k fs)
    else if k = "RestElement" then
      match Pattern.partOf? "argument" fs with
      | some p => .rest p (Tree.without ["argument"] fs)
      | none => .other (.node k fs)
    else if k = "AssignmentPattern" then
      match Pattern.partOf? "left" fs with
      | some p => .assign p (Tree.without ["left"] fs)
      | none => .other (.node k fs)
    else .other (.node k fs)
  | t => .other t
/-- The patterns with the given trees. -/
def Pattern.ofTrees : List Tree → List Pattern
  | [] => []
  | t :: ts => Pattern.ofTree t :: Pattern.ofTrees ts
/-- The pattern among labelled parts. -/
def Pattern.partOf? (label : String) : Fields → Option Pattern
  | [] => none
  | (l, t) :: fs => if l = label then some (Pattern.ofTree t) else Pattern.partOf? label fs
/-- The element patterns among labelled parts. -/
def Pattern.elementsOf? : Fields → Option (List Pattern)
  | [] => none
  | (l, .list ts) :: fs =>
    if l = "elements" then some (Pattern.ofTrees ts) else Pattern.elementsOf? fs
  | _ :: fs => Pattern.elementsOf? fs
/-- The property of an object pattern with the given tree. -/
def PatternProperty.ofTree : Tree → PatternProperty
  | .node k fs =>
    if k = "KeyValuePatternProperty" then
      match Pattern.partOf? "value" fs with
      | some p => .keyValue p (Tree.without ["value"] fs)
      | none => .other (.node k fs)
    else if k = "AssignmentPatternProperty" then
      match (fs.lookup "key").bind Ident.ofBinding? with
      | some (i, a) => .shorthand i a (Tree.without ["key"] fs)
      | none => .other (.node k fs)
    else if k = "RestElement" then
      match Pattern.partOf? "argument" fs with
      | some p => .rest p (Tree.without ["argument"] fs)
      | none => .other (.node k fs)
    else .other (.node k fs)
  | t => .other t
/-- The properties with the given trees. -/
def PatternProperty.ofTrees : List Tree → List PatternProperty
  | [] => []
  | t :: ts => PatternProperty.ofTree t :: PatternProperty.ofTrees ts
/-- The properties of an object pattern among labelled parts. -/
def PatternProperty.propertiesOf? : Fields → Option (List PatternProperty)
  | [] => none
  | (l, .list ts) :: fs =>
    if l = "properties" then some (PatternProperty.ofTrees ts)
    else PatternProperty.propertiesOf? fs
  | _ :: fs => PatternProperty.propertiesOf? fs
end

end SoleExport
