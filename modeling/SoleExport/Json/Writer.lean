/-
  Syntax trees as JSON text.

  Every part stands on a line of its own, indented by two blanks for each
  level.  The kind of a node is its field `type`.
-/
import SoleExport.Text.Numeral

namespace SoleExport.Json

/-- A character of a string, escaped if it has to be. -/
def writtenChar (c : Char) : List Char :=
  match c with
  | '"' => ['\\', '"']
  | '\\' => ['\\', '\\']
  | '\n' => ['\\', 'n']
  | '\r' => ['\\', 'r']
  | '\t' => ['\\', 't']
  | c =>
    if c.toNat = 8 then ['\\', 'b']
    else if c.toNat = 12 then ['\\', 'f']
    else if c.toNat < 32 then
      let digits := Nat.toDigits 16 c.toNat
      ['\\', 'u'] ++ List.replicate (4 - digits.length) '0' ++ digits
    else [c]

/-- A string between quotes. -/
def written (s : String) : String := "\"" ++ String.ofList (s.toList.flatMap writtenChar) ++ "\""

/-- Parts between brackets, one on each line at the given level. -/
def bracketed (opening closing : String) (level : Nat) (parts : List String) : String :=
  let margin (n : Nat) : String := String.ofList (List.replicate (2 * n) ' ')
  if parts.isEmpty then opening ++ closing
  else
    opening ++ "\n" ++ ",\n".intercalate (parts.map fun p => margin (level + 1) ++ p) ++ "\n" ++
      margin level ++ closing

/-- A member of an object. -/
def labelled (label value : String) : String := written label ++ ": " ++ value

/-- A position in the source. -/
def writtenSpan (level : Nat) (s : Span) : String :=
  bracketed "\x7b" "\x7d" level
    [labelled "start" (toString s.start), labelled "end" (toString s.stop)]

mutual
/-- A tree at the given level. -/
def writtenTree (level : Nat) : Tree → String
  | .null => "null"
  | .bool b => if b then "true" else "false"
  | .num d => Numeral.writtenOut d
  | .str s => written s
  | .span s => writtenSpan level s
  | .list ts => bracketed "[" "]" level (writtenList (level + 1) ts)
  | .node kind fields =>
    let type := if kind.isEmpty then [] else [labelled "type" (written kind)]
    bracketed "\x7b" "\x7d" level (type ++ writtenFields (level + 1) fields)
/-- Trees at the given level. -/
def writtenList (level : Nat) : List Tree → List String
  | [] => []
  | t :: ts => writtenTree level t :: writtenList level ts
/-- Labelled trees at the given level. -/
def writtenFields (level : Nat) : Fields → List String
  | [] => []
  | (label, t) :: fs => labelled label (writtenTree level t) :: writtenFields level fs
end

end SoleExport.Json

namespace SoleExport

/-- A tree as JSON text. -/
def Tree.toJson (t : Tree) : String := Json.writtenTree 0 t

end SoleExport
