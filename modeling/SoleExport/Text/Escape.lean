/-
  Escape sequences in string literals and templates.

  `cook?` gives the text that a spelling with escapes stands for, if each of its
  escapes stands for something; `quoted` spells a text as a string literal.
-/
import SoleExport.Text.NameChar
import SoleExport.Text.Numeral

namespace SoleExport.Escape

/-! ## The text of a spelling -/

/-- The character a simple escape stands for. -/
def simple (c : Char) : Char :=
  match c with
  | 'n' => '\n'
  | 't' => '\t'
  | 'r' => '\r'
  | 'b' => Char.ofNat 8
  | 'v' => Char.ofNat 11
  | 'f' => Char.ofNat 12
  | c => c

/-- The code point that digits of base sixteen stand for. -/
def hexCode? (digits : List Char) : Option Nat :=
  if digits.isEmpty ∨ !digits.all Numeral.isHexDigit then none
  else
    let n := Numeral.ofDigits 16 digits
    if n < 0x110000 then some n else none

/-- Whether the character is a digit of base eight. -/
def isOctalDigit (c : Char) : Bool := '0' ≤ c && c ≤ '7'

/-- The digits of an escape in base eight: three at most, and no more than stand for
    a number below 256. -/
def octalDigits (cs : List Char) : List Char :=
  let ds := (cs.take 3).takeWhile isOctalDigit
  if Numeral.ofDigits 8 ds < 256 then ds else ds.take 2

/-- Whether the text after a backslash starts with an escape in base eight; a zero
    that stands alone is none. -/
def startsOctal (cs : List Char) : Bool :=
  match cs with
  | '0' :: d :: _ => isOctalDigit d
  | '0' :: [] => false
  | d :: _ => isOctalDigit d
  | [] => false

/-- The code points that the escape after a backslash stands for, and the number of
    characters it is written with; nothing if it is malformed.  In a template there
    are no escapes in base eight. -/
def escape? (inTemplate : Bool) (cs : List Char) : Option (List Nat × Nat) :=
  match cs with
  | 'u' :: '{' :: rest => do
    let digits := rest.takeWhile (· != '}')
    guard (digits.length < rest.length)
    return ([← hexCode? digits], digits.length + 3)
  | 'u' :: rest => do
    guard (4 ≤ rest.length)
    return ([← hexCode? (rest.take 4)], 5)
  | 'x' :: rest => do
    guard (2 ≤ rest.length)
    return ([← hexCode? (rest.take 2)], 3)
  | '\r' :: '\n' :: _ => some ([], 2)
  | c :: _ =>
    if isLineEnd c then some ([], 1)
    else if startsOctal cs then
      if inTemplate then none
      else
        let ds := octalDigits cs
        some ([Numeral.ofDigits 8 ds], ds.length)
    else some ([if c = '0' then 0 else (simple c).toNat], 1)
  | [] => none

/-- The code points of a spelling; the next `skipped` characters belong to an escape
    already read. -/
def codesFrom (inTemplate : Bool) : Nat → List Char → Option (List Nat)
  | _, [] => some []
  | skipped + 1, _ :: cs => codesFrom inTemplate skipped cs
  | 0, '\\' :: cs => do
    let (codes, n) ← escape? inTemplate cs
    return codes ++ (← codesFrom inTemplate n cs)
  | 0, c :: cs => (codesFrom inTemplate 0 cs).map (c.toNat :: ·)

/-- Whether a code point is the first half of a character beyond the first 65536. -/
def isHighHalf (n : Nat) : Bool := 0xD800 ≤ n && n < 0xDC00

/-- Whether a code point is the second half of such a character. -/
def isLowHalf (n : Nat) : Bool := 0xDC00 ≤ n && n < 0xE000

/-- A half that stands alone is written as an escape. -/
def halfText (n : Nat) : List Char := '\\' :: 'u' :: (Nat.toDigits 16 n).map Char.toUpper

/-- The text of code points.  The halves of a character are put together, and a
    backslash that an escape of a half could be read from is doubled. -/
def textOfCodes : List Nat → List Char
  | [] => []
  | 0x5C :: 0x75 :: cs => '\\' :: '\\' :: 'u' :: textOfCodes cs
  | [n] => if isHighHalf n || isLowHalf n then halfText n else [Char.ofNat n]
  | n :: m :: cs =>
    if isHighHalf n && isLowHalf m then
      Char.ofNat (0x10000 + (n - 0xD800) * 0x400 + (m - 0xDC00)) :: textOfCodes cs
    else if isHighHalf n || isLowHalf n then halfText n ++ textOfCodes (m :: cs)
    else Char.ofNat n :: textOfCodes (m :: cs)

/-- The text that the characters between quotes stand for. -/
def cook? (inTemplate : Bool) (cs : List Char) : Option (List Char) :=
  (codesFrom inTemplate 0 cs).map textOfCodes

/-- Line ends in a template are read as `\n`. -/
def unifyLineEnds : List Char → List Char
  | [] => []
  | '\r' :: '\n' :: cs => '\n' :: unifyLineEnds cs
  | '\r' :: cs => '\n' :: unifyLineEnds cs
  | c :: cs => c :: unifyLineEnds cs

/-- A text with each line end of two characters written with one. -/
def joinLineEnds : List Char → List Char
  | [] => []
  | '\r' :: '\n' :: cs => '\n' :: joinLineEnds cs
  | c :: cs => c :: joinLineEnds cs

/-! ## Spelling a text -/

/-- The quotes to put a text in: double ones, unless it holds more of these than
    of the single ones. -/
def quoteFor (cs : List Char) : Char := if cs.count '\'' < cs.count '"' then '\'' else '"'

/-- A character as it is spelled between quotes, before the given character.  Zero
    is spelled in full before a digit. -/
def spelled (quote c : Char) (following : Option Char) : List Char :=
  let hex (n : Nat) : List Char :=
    ['\\', 'x'] ++ (if n < 16 then ['0'] else []) ++ Nat.toDigits 16 n
  match c.toNat with
  | 0 => if following.any Char.isDigit then hex 0 else ['\\', '0']
  | 8 => ['\\', 'b']
  | 9 => [c]
  | 10 => ['\\', 'n']
  | 11 => ['\\', 'v']
  | 12 => ['\\', 'f']
  | 13 => ['\\', 'r']
  | 0x2028 => "\\u2028".toList
  | 0x2029 => "\\u2029".toList
  | 0xFEFF => "\\uFEFF".toList
  | n =>
    if c = '\\' ∨ c = quote then ['\\', c]
    else if n < 32 then hex n
    else [c]

/-- The characters of a text as they are spelled between quotes. -/
def spelledAll (quote : Char) : List Char → List Char
  | [] => []
  | c :: cs => spelled quote c cs.head? ++ spelledAll quote cs

/-- A string literal that stands for a text. -/
def quoted (text : String) : String :=
  let quote := quoteFor text.toList
  String.ofList (quote :: spelledAll quote text.toList ++ [quote])

end SoleExport.Escape
