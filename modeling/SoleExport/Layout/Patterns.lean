/-
  Layouts of identifiers, literals and patterns.

  A literal is written as it was spelled, or by its value if nothing was spelled.
  Patterns stay on one line.
-/
import SoleExport.Layout.Printer
import SoleExport.Text.Escape
import SoleExport.Text.Shortest

namespace SoleExport.Printer

open Layout

/-! ## Names and literals -/

/-- Numbers are written out if the point stands at most twenty-one digits to the
    right or six to the left of the first one. -/
def numberFormat : Shortest.Format := ⟨21, 6, ""⟩

/-- The number that digits in base 2 ^ 32 stand for, the last one given first. -/
def ofWords : List Tree → Nat
  | [] => 0
  | .num d :: ds => d.mantissa.natAbs + Nat.pow 2 32 * ofWords ds
  | _ :: ds => Nat.pow 2 32 * ofWords ds

/-- The value of a big integer: its sign and its digits. -/
def bigValue : Tree → String
  | .list [.num sign, .list digits] =>
    (if sign.mantissa < 0 then "-" else "") ++ toString (ofWords digits)
  | _ => ""

/-- A literal as it was spelled; one that was never spelled is written out. -/
def literal (t : Tree) : Layout :=
  match t.text? "raw", t.get "value" with
  | some raw, _ => text raw
  | none, .str s => text (Escape.quoted s)
  | none, .num d => text (Shortest.text numberFormat d)
  | none, .bool b => text (if b then "true" else "false")
  | none, value => if t.kind = "BigIntLiteral" then text (bigValue value ++ "n") else []

/-- An identifier, with the mark of an optional one and its type. -/
def identifier (p : Printer) (t : Tree) : Layout :=
  text (t.text "value") ++ textIf (t.flag "optional") "?" ++ p.ascription (t.get "typeAnnotation")

/-- A name or a literal. -/
def atom? (p : Printer) (t : Tree) : Option Layout :=
  match t.kind with
  | "Identifier" => some (p.identifier t)
  | "PrivateName" => some (text "#" ++ text (t.text "value"))
  | "StringLiteral" | "NumericLiteral" | "BigIntLiteral" | "BooleanLiteral" => some (literal t)
  | "NullLiteral" => some (text "null")
  | "RegExpLiteral" =>
    some (text "/" ++ text (t.text "pattern") ++ text "/" ++ text (t.text "flags"))
  | "ThisExpression" => some (text "this")
  | "Super" => some (text "super")
  | "Computed" => some (text "[" ++ p.expr (t.get "expression") ++ text "]")
  | "Invalid" => some (text "<invalid>")
  | _ => none

/-! ## Patterns -/

/-- The end of an array or object pattern. -/
def patternEnd (p : Printer) (t : Tree) : Layout :=
  textIf (t.flag "optional") "?" ++ p.ascription (t.get "typeAnnotation")

/-- The properties of an object pattern, on one line. -/
def patternProperties (p : Printer) (t : Tree) : Layout :=
  let properties := t.seq "properties"
  if properties.isEmpty then [] else [.blank] ++ p.list properties ++ [.blank]

/-- A pattern, or a property of one. -/
def patternNode? (p : Printer) (t : Tree) : Option Layout :=
  match t.kind with
  | "ArrayPattern" =>
    some (text "[" ++ commas (row p.pattern (t.seq "elements")) ++ text "]" ++ p.patternEnd t)
  | "ObjectPattern" => some (openBrace ++ p.patternProperties t ++ closeBrace ++ p.patternEnd t)
  | "RestElement" =>
    some (text "..." ++ p.pattern (t.get "argument") ++ p.ascription (t.get "typeAnnotation"))
  | "AssignmentPattern" =>
    some (p.pattern (t.get "left") ++ spaced "=" ++ p.expr (t.get "right"))
  | "KeyValuePatternProperty" =>
    some (p.node (t.get "key") ++ word ":" ++ p.pattern (t.get "value"))
  | "AssignmentPatternProperty" => some (p.node (t.get "key") ++ p.initial (t.get "value"))
  | _ => none

end SoleExport.Printer
