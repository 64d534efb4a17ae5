/-
  What can be wrong with a JSON text.

  A fault says what is wrong and where reading stood: `rest` is the text that
  was left.  Whoever knows the whole text can tell the line and the column.
-/
import SoleExport.Text.Printable

namespace SoleExport.Json

/-- A value of the wrong type. -/
inductive Found where
  | null
  | bool (b : Bool)
  | integer (n : Int)
  /-- any other number, as text -/
  | fraction (text : String)
  | string (s : String)
  | list
  | object
deriving DecidableEq, Repr, Inhabited

/-- What is wrong. -/
inductive Cause where
  /-- The text ends in a list. -/
  | endInList
  /-- The text ends in an object. -/
  | endInObject
  /-- The text ends in a string. -/
  | endInString
  /-- The text ends where a value is expected. -/
  | endInValue
  /-- No colon follows a key. -/
  | noColon
  /-- Neither a comma nor the end of the list follows an element. -/
  | noListEnd
  /-- Neither a comma nor the end of the object follows a member. -/
  | noObjectEnd
  /-- A word is misspelled. -/
  | badWord
  /-- No value can start here. -/
  | noValue
  /-- No such escape exists. -/
  | badEscape
  /-- A number is malformed. -/
  | badNumber
  /-- A number is too large. -/
  | hugeNumber
  /-- A control character stands in a string. -/
  | controlCharacter
  /-- A key is no string. -/
  | badKey
  /-- The second half of a pair of escapes is missing or stands alone. -/
  | unpairedEscape
  /-- A pair of escapes breaks off. -/
  | halfEscape
  /-- A comma stands before the end. -/
  | lastComma
  /-- Something follows the end. -/
  | notTheEnd
  /-- A value is well-formed but not of the type that is wanted. -/
  | wrongType (found : Found) (wanted : String)
  /-- A known key stands twice. -/
  | repeatedKey (key : String)
deriving DecidableEq, Repr, Inhabited

/-- The kinds of causes. -/
inductive Category where
  /-- The text ends too early. -/
  | ending
  /-- The text is well-formed, but not what is wanted. -/
  | data
  /-- The text is malformed. -/
  | form
deriving DecidableEq, Repr, Inhabited

/-- The kind of a cause. -/
def Cause.category : Cause → Category
  | .endInList | .endInObject | .endInString | .endInValue => .ending
  | .wrongType _ _ | .repeatedKey _ => .data
  | _ => .form

/-! ## Wording -/

/-- A character of a string that is shown between quotes. -/
def shownChar (c : Char) : String :=
  match c with
  | '"' => "\\\""
  | '\\' => "\\\\"
  | '\n' => "\\n"
  | '\r' => "\\r"
  | '\t' => "\\t"
  | c =>
    if isPrintable c then String.singleton c
    else if c.toNat = 0 then "\\0"
    else "\\u\x7b" ++ String.ofList (Nat.toDigits 16 c.toNat) ++ "\x7d"

/-- A string between quotes. -/
def shown (s : String) : String := "\"" ++ String.join (s.toList.map shownChar) ++ "\""

/-- What was found instead of what is wanted. -/
def Found.text : Found → String
  | .null => "null"
  | .bool b => "boolean `" ++ (if b then "true" else "false") ++ "`"
  | .integer n => "integer `" ++ toString n ++ "`"
  | .fraction t => "floating point `" ++ t ++ "`"
  | .string s => "string " ++ shown s
  | .list => "sequence"
  | .object => "map"

/-- The wording of a cause. -/
def Cause.text : Cause → String
  | .endInList => "EOF while parsing a list"
  | .endInObject => "EOF while parsing an object"
  | .endInString => "EOF while parsing a string"
  | .endInValue => "EOF while parsing a value"
  | .noColon => "expected `:`"
  | .noListEnd => "expected `,` or `]`"
  | .noObjectEnd => "expected `,` or `\x7d`"
  | .badWord => "expected ident"
  | .noValue => "expected value"
  | .badEscape => "invalid escape"
  | .badNumber => "invalid number"
  | .hugeNumber => "number out of range"
  | .controlCharacter => "control character (\\u0000-\\u001F) found while parsing a string"
  | .badKey => "key must be a string"
  | .unpairedEscape => "lone leading surrogate in hex escape"
  | .halfEscape => "unexpected end of hex escape"
  | .lastComma => "trailing comma"
  | .notTheEnd => "trailing characters"
  | .wrongType found wanted => "invalid type: " ++ found.text ++ ", expected " ++ wanted
  | .repeatedKey key => "duplicate field `" ++ key ++ "`"

/-! ## Faults -/

/-- Something wrong with a text. -/
structure Fault where
  cause : Cause
  /-- The text that was left when it was found. -/
  rest : List Char
  /-- How many bytes of that had been looked at. -/
  ahead : Nat
deriving DecidableEq, Repr, Inhabited

/-- The bytes before the place of a fault in a text. -/
def Fault.before (f : Fault) (text : String) : List UInt8 :=
  let bytes := text.toUTF8.toList
  bytes.take (bytes.length - (String.ofList f.rest).utf8ByteSize + f.ahead)

/-- The wording of a fault in a text, with its line and the number of bytes of the
    line before it. -/
def Fault.message (f : Fault) (text : String) : String :=
  let before := f.before text
  let line := before.count 10 + 1
  let column := (before.reverse.takeWhile (· != 10)).length
  f.cause.text ++ " at line " ++ toString line ++ " column " ++ toString column

end SoleExport.Json
