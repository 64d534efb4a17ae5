/-
  Layouts of types.

  Members of interfaces and of object types stand on lines of their own, each
  closed by a semicolon; all other types stay on one line.
-/
import SoleExport.Layout.Printer

namespace SoleExport.Printer

open Layout

/-- A key of a member of a type; a computed one stands in brackets. -/
def memberKey (p : Printer) (t : Tree) : Layout :=
  let key := p.expr (t.get "key")
  if t.flag "computed" then text "[" ++ key ++ text "]" else key

/-- The parameters of a type that is a function. -/
def typeParameters (p : Printer) (t : Tree) : Layout :=
  part p.node (t.get "typeParams") ++ parenthesized (indented (p.list (t.seq "params")))

/-- The members of a type, each on a line of its own and closed by a semicolon. -/
def members (p : Printer) (ts : List Tree) : Layout :=
  openBrace ++ lines [] (ts.map fun t => p.node t ++ semicolon) ++ closeBrace

/-- A member of an interface or an object type. -/
def typeMember? (p : Printer) (t : Tree) : Option Layout :=
  match t.kind with
  | "TsPropertySignature" =>
    some (wordIf (t.flag "readonly") "readonly" ++ p.memberKey t ++
      textIf (t.flag "optional") "?" ++ p.ascription (t.get "typeAnnotation"))
  | "TsMethodSignature" =>
    some (p.memberKey t ++ textIf (t.flag "optional") "?" ++ p.typeParameters t ++
      p.ascription (t.get "typeAnn"))
  | "TsIndexSignature" =>
    some (wordIf (t.flag "readonly") "readonly" ++ text "[" ++
      indented (p.list (t.seq "params")) ++ text "]" ++ p.ascription (t.get "typeAnnotation"))
  | "TsCallSignatureDeclaration" =>
    some (p.typeParameters t ++ part (fun r => spaced ":" ++ p.node r) (t.get "typeAnnotation"))
  | "TsConstructSignatureDeclaration" =>
    some (text "new" ++ p.typeParameters t ++ p.ascription (t.get "typeAnnotation"))
  | "TsGetterSignature" =>
    some (word "get" ++ p.memberKey t ++ text "()" ++ p.ascription (t.get "typeAnnotation"))
  | "TsSetterSignature" =>
    some (word "set" ++ p.memberKey t ++ parenthesized (p.node (t.get "param")))
  | _ => none

/-! ## Mapped types -/

/-- What is said before a mark or word about whether it is added or removed. -/
def signed (mark : Layout) : Tree → Layout
  | .null => []
  | .str sign => text sign ++ mark
  | _ => mark

/-- `{ [K in T]: U }` -/
def mappedType (p : Printer) (t : Tree) : Layout :=
  let param := t.get "typeParam"
  openBrace ++ [.line, .indent] ++ signed (word "readonly") (t.get "readonly") ++ text "[" ++
    p.node (param.get "name") ++
    part (fun c => spaced "in" ++ p.node c) (param.get "constraint") ++
    part (fun n => spaced "as" ++ p.node n) (t.get "nameType") ++ text "]" ++
    signed (text "?") (t.get "optional") ++ word ":" ++ part p.node (t.get "typeAnnotation") ++
    semicolon ++ [.line, .dedent] ++ closeBrace

/-! ## Types -/

/-- A parameter of a type or of a generic function or class. -/
def typeParameter (p : Printer) (t : Tree) : Layout :=
  wordIf (t.flag "const") "const" ++ wordIf (t.flag "in") "in" ++ wordIf (t.flag "out") "out" ++
    p.node (t.get "name") ++ part (fun c => spaced "extends" ++ p.node c) (t.get "constraint") ++
    part (fun d => spaced "=" ++ p.node d) (t.get "default")

/-- A type made of smaller types. -/
def compoundType? (p : Printer) (t : Tree) : Option Layout :=
  match t.kind with
  | "TsArrayType" => some (p.node (t.get "elemType") ++ text "[]")
  | "TsUnionType" => some (separated (spaced "|") (row p.node (t.seq "types")))
  | "TsIntersectionType" => some (separated (spaced "&") (row p.node (t.seq "types")))
  | "TsTupleType" => some (text "[" ++ p.list (t.seq "elemTypes") ++ text "]")
  | "TsMappedType" => some (p.mappedType t)
  | "TsTupleElement" =>
    some (part (fun l => p.node l ++ word ":") (t.get "label") ++ p.node (t.get "ty"))
  | "TsFunctionType" =>
    some (p.typeParameters t ++ spaced "=>" ++ p.node (t.get "typeAnnotation"))
  | "TsConstructorType" =>
    some (wordIf (t.flag "isAbstract") "abstract" ++ text "new" ++ p.typeParameters t ++
      spaced "=>" ++ p.node (t.get "typeAnnotation"))
  | "TsTypeLiteral" => some (p.members (t.seq "members"))
  | "TsParenthesizedType" => some (parenthesized (p.node (t.get "typeAnnotation")))
  | "TsOptionalType" => some (p.node (t.get "typeAnnotation") ++ text "?")
  | "TsRestType" => some (text "..." ++ p.node (t.get "typeAnnotation"))
  | "TsTypeOperator" => some (word (t.text "op") ++ p.node (t.get "typeAnnotation"))
  | "TsIndexedAccessType" =>
    some (p.node (t.get "objectType") ++ text "[" ++ p.node (t.get "indexType") ++ text "]")
  | "TsConditionalType" =>
    some (p.node (t.get "checkType") ++ spaced "extends" ++ p.node (t.get "extendsType") ++
      spaced "?" ++ p.node (t.get "trueType") ++ spaced ":" ++ p.node (t.get "falseType"))
  | "TsInferType" => some (word "infer" ++ p.node (t.get "typeParam"))
  | "TsTypePredicate" =>
    some (wordIf (t.flag "asserts") "asserts" ++ p.node (t.get "paramName") ++
      part (fun a => spaced "is" ++ p.node a) (t.get "typeAnnotation"))
  | _ => none

/-- A type, or a part of one. -/
def typeNode? (p : Printer) (t : Tree) : Option Layout :=
  match t.kind with
  | "TsTypeAnnotation" => some (p.node (t.get "typeAnnotation"))
  | "TsKeywordType" => some (text (t.text "kind"))
  | "TsThisType" => some (text "this")
  | "TsTypeReference" => some (p.node (t.get "typeName") ++ part p.node (t.get "typeParams"))
  | "TsQualifiedName" => some (p.node (t.get "left") ++ text "." ++ p.node (t.get "right"))
  | "TsLiteralType" => some (p.node (t.get "literal"))
  | "TsTypeQuery" =>
    some (word "typeof" ++ p.node (t.get "exprName") ++ part p.node (t.get "typeArguments"))
  | "TsImportType" =>
    some (text "import" ++ parenthesized (p.node (t.get "argument") ++
        part (fun a => word "," ++ p.node a) (t.get "attributes")) ++
      part (fun q => text "." ++ p.node q) (t.get "qualifier") ++
      part p.node (t.get "typeArguments"))
  | "TsImportCallOptions" =>
    some (word "\x7b" ++ word "with:" ++ p.node (t.get "with") ++ [.blank] ++ closeBrace)
  | "TsTypeParameterInstantiation" =>
    some (text "<" ++ indented (p.list (t.seq "params")) ++ text ">")
  | "TsTypeParameterDeclaration" =>
    some (text "<" ++ indented (p.list (t.seq "parameters")) ++ text ">")
  | "TsTypeParameter" => some (p.typeParameter t)
  | "TsExpressionWithTypeArguments" =>
    some (p.expr (t.get "expression") ++ part p.node (t.get "typeArguments"))
  | _ => (p.compoundType? t).or (p.typeMember? t)

end SoleExport.Printer
