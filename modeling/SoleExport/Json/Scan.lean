/-
  Reading the parts of a JSON text.

  Every function takes the text that is left and gives back what is left after
  the part it reads, or a fault.  A value that nobody asks for is skipped; it
  must be well-formed, but its strings may hold half of a pair of escapes, and
  its numbers may be of any size.
-/
import SoleExport.Json.Fault
import SoleExport.Text.Shortest

namespace SoleExport.Json

/-- Drop white space. -/
def skipBlanks (cs : List Char) : List Char :=
  cs.dropWhile fun c => c == ' ' || c == '\n' || c == '\t' || c == '\r'

/-- The rest of a word. -/
def word : List Char → List Char → Except Fault (List Char)
  | [], cs => .ok cs
  | _ :: _, [] => .error ⟨.endInValue, [], 0⟩
  | e :: es, c :: cs => if c = e then word es cs else .error ⟨.badWord, c :: cs, 1⟩

/-! ## Strings -/

/-- The character that an escape of one letter stands for. -/
def escaped? : Char → Option Char
  | '"' => some '"'
  | '\\' => some '\\'
  | '/' => some '/'
  | 'b' => some (Char.ofNat 8)
  | 'f' => some (Char.ofNat 12)
  | 'n' => some '\n'
  | 'r' => some '\r'
  | 't' => some '\t'
  | _ => none

/-- The number that four digits of base sixteen stand for. -/
def hex? (ds : List Char) : Option Nat :=
  if ds.all Numeral.isHexDigit then some (Numeral.ofDigits 16 ds) else none

/-- What is wrong with an escape that has not got four digits. -/
def shortEscape (cs : List Char) : Fault :=
  if (String.ofList cs).utf8ByteSize < 4 then ⟨.endInString, [], 0⟩ else ⟨.badEscape, cs, 4⟩

/-- Whether a number is the first half of a pair of escapes. -/
def isFirstHalf (n : Nat) : Bool := 0xd800 ≤ n && n < 0xdc00

/-- Whether a number is the second half of a pair of escapes. -/
def isSecondHalf (n : Nat) : Bool := 0xdc00 ≤ n && n < 0xe000

/-- The character that a pair of escapes stands for. -/
def paired (high low : Nat) : Char :=
  Char.ofNat (0x10000 + (high - 0xd800) * 0x400 + (low - 0xdc00))

/-- The text of a string after its first quote, and what is left after the last
    one. -/
def string : List Char → Except Fault (List Char × List Char)
  | [] => .error ⟨.endInString, [], 0⟩
  | '"' :: cs => .ok ([], cs)
  | '\\' :: [] => .error ⟨.endInString, [], 0⟩
  | '\\' :: 'u' :: a :: b :: c :: d :: cs =>
    match hex? [a, b, c, d] with
    | none => .error (shortEscape (a :: b :: c :: d :: cs))
    | some n =>
      if isSecondHalf n then .error ⟨.unpairedEscape, cs, 0⟩
      else if isFirstHalf n then
        match cs with
        | '\\' :: 'u' :: a' :: b' :: c' :: d' :: cs' =>
          match hex? [a', b', c', d'] with
          | none => .error (shortEscape (a' :: b' :: c' :: d' :: cs'))
          | some m =>
            if isSecondHalf m then (string cs').map fun r => (paired n m :: r.1, r.2)
            else .error ⟨.unpairedEscape, cs', 0⟩
        | '\\' :: 'u' :: cs' => .error (shortEscape cs')
        | '\\' :: [] => .error ⟨.endInString, [], 0⟩
        | '\\' :: cs' => .error ⟨.halfEscape, cs', 1⟩
        | [] => .error ⟨.endInString, [], 0⟩
        | cs' => .error ⟨.halfEscape, cs', 1⟩
      else (string cs).map fun r => (Char.ofNat n :: r.1, r.2)
  | '\\' :: 'u' :: cs => .error (shortEscape cs)
  | '\\' :: c :: cs =>
    match escaped? c with
    | some e => (string cs).map fun r => (e :: r.1, r.2)
    | none => .error ⟨.badEscape, c :: cs, 1⟩
  | c :: cs =>
    if c.toNat < 0x20 then .error ⟨.controlCharacter, c :: cs, 1⟩
    else (string cs).map fun r => (c :: r.1, r.2)

/-- What is left after a string that nobody asks for, read after its first
    quote. -/
def skipString : List Char → Except Fault (List Char)
  | [] => .error ⟨.endInString, [], 0⟩
  | '"' :: cs => .ok cs
  | '\\' :: [] => .error ⟨.endInString, [], 0⟩
  | '\\' :: 'u' :: a :: b :: c :: d :: cs =>
    match hex? [a, b, c, d] with
    | none => .error (shortEscape (a :: b :: c :: d :: cs))
    | some _ => skipString cs
  | '\\' :: 'u' :: cs => .error (shortEscape cs)
  | '\\' :: c :: cs =>
    if (escaped? c).isSome then skipString cs else .error ⟨.badEscape, c :: cs, 1⟩
  | c :: cs => if c.toNat < 0x20 then .error ⟨.controlCharacter, c :: cs, 0⟩ else skipString cs

/-! ## Numbers -/

/-- What is wrong with a number, if the given cause is to blame at the end of the
    text. -/
def numberFault (atEnd : Cause) (cs : List Char) : Fault :=
  if cs.isEmpty then ⟨atEnd, [], 0⟩ else ⟨.badNumber, cs, 1⟩

/-- At least one digit. -/
def skipDigits (atEnd : Cause) (cs : List Char) : Except Fault (List Char) :=
  match cs with
  | c :: rest =>
    if c.isDigit then .ok (rest.dropWhile Char.isDigit) else .error (numberFault atEnd cs)
  | [] => .error (numberFault atEnd cs)

/-- The whole part of a number: no zero stands before another digit. -/
def skipWhole (atEnd : Cause) (cs : List Char) : Except Fault (List Char) :=
  match cs with
  | '0' :: rest =>
    match rest with
    | d :: _ => if d.isDigit then .error ⟨.badNumber, rest, 1⟩ else .ok rest
    | [] => .ok rest
  | cs => skipDigits atEnd cs

/-- The fraction of a number, if there is one. -/
def skipFraction (atEnd : Cause) (cs : List Char) : Except Fault (List Char) :=
  match cs with
  | '.' :: rest => skipDigits atEnd rest
  | cs => .ok cs

/-- The exponent of a number, if there is one. -/
def skipExponent (atEnd : Cause) (cs : List Char) : Except Fault (List Char) :=
  let power (rest : List Char) : Except Fault (List Char) :=
    match rest with
    | '+' :: more | '-' :: more => skipDigits atEnd more
    | rest => skipDigits atEnd rest
  match cs with
  | 'e' :: rest | 'E' :: rest => power rest
  | cs => .ok cs

/-- What is left after a number, read after its sign; `atEnd` is to blame if the
    text ends in it. -/
def skipNumber (atEnd : Cause) (cs : List Char) : Except Fault (List Char) := do
  skipExponent atEnd (← skipFraction atEnd (← skipWhole atEnd cs))

/-! ## Values -/

/-- What is left after a colon. -/
def colon (cs : List Char) : Except Fault (List Char) :=
  match skipBlanks cs with
  | ':' :: rest => .ok rest
  | [] => .error ⟨.endInObject, [], 0⟩
  | cs => .error ⟨.noColon, cs, 1⟩

mutual
/-- What is left after a value whose parts are nested at most as deep as `fuel`
    allows. -/
def skipValueUpTo : Nat → List Char → Except Fault (List Char)
  | 0, cs => .error ⟨.endInValue, cs, 0⟩
  | fuel + 1, cs =>
    match skipBlanks cs with
    | [] => .error ⟨.endInValue, [], 0⟩
    | 'n' :: rest => word ['u', 'l', 'l'] rest
    | 't' :: rest => word ['r', 'u', 'e'] rest
    | 'f' :: rest => word ['a', 'l', 's', 'e'] rest
    | '"' :: rest => skipString rest
    | '-' :: rest => skipNumber .badNumber rest
    | '[' :: rest =>
      match skipBlanks rest with
      | ']' :: rest => .ok rest
      | [] => .error ⟨.endInList, [], 0⟩
      | rest => skipElements fuel rest
    | '{' :: rest =>
      match skipBlanks rest with
      | '}' :: rest => .ok rest
      | [] => .error ⟨.endInObject, [], 0⟩
      | rest => skipMembers fuel rest
    | c :: rest =>
      if c.isDigit then skipNumber .badNumber (c :: rest) else .error ⟨.noValue, c :: rest, 1⟩
/-- What is left after the elements of a list and its end. -/
def skipElements : Nat → List Char → Except Fault (List Char)
  | 0, cs => .error ⟨.endInList, cs, 0⟩
  | fuel + 1, cs => do
    let rest ← skipValueUpTo fuel cs
    match skipBlanks rest with
    | ',' :: rest => skipElements fuel rest
    | ']' :: rest => .ok rest
    | [] => .error ⟨.endInList, [], 0⟩
    | rest => .error ⟨.noListEnd, rest, 1⟩
/-- What is left after the members of an object and its end. -/
def skipMembers : Nat → List Char → Except Fault (List Char)
  | 0, cs => .error ⟨.endInObject, cs, 0⟩
  | fuel + 1, cs =>
    match skipBlanks cs with
    | '"' :: rest => do
      let rest ← skipValueUpTo fuel (← colon (← skipString rest))
      match skipBlanks rest with
      | ',' :: rest => skipMembers fuel rest
      | '}' :: rest => .ok rest
      | [] => .error ⟨.endInObject, [], 0⟩
      | rest => .error ⟨.noObjectEnd, rest, 1⟩
    | [] => .error ⟨.endInObject, [], 0⟩
    | rest => .error ⟨.badKey, rest, 1⟩
end

/-- What is left after a value that nobody asks for. -/
def skipValue (cs : List Char) : Except Fault (List Char) := skipValueUpTo (2 * cs.length + 1) cs

/-! ## Values of the wrong type -/

/-- Numbers that are not whole are shown written out if the point stands at most
    sixteen digits to the right or five to the left of the first one. -/
def fractionFormat : Shortest.Format := ⟨16, 5, ".0"⟩

/-- The number that digits make, read on from `n` as far as it fits into 64 bits, and
    the digits that are left. -/
def fitting (n : Nat) : List Char → Nat × List Char
  | [] => (n, [])
  | c :: cs =>
    let next := n * 10 + Numeral.digit c
    if next < Nat.pow 2 64 then fitting next cs else (n, c :: cs)

/-- The digits behind the one with which a number, read on from `n`, does not fit into
    31 bits, if there is such a digit. -/
def beyondLimit? (n : Nat) : List Char → Option (List Char)
  | [] => none
  | c :: cs =>
    let next := n * 10 + Numeral.digit c
    if next < Nat.pow 2 31 then beyondLimit? next cs else some cs

/-- The double that a numeral without a sign is read as.  Digits of the whole part that
    do not fit only raise the power of ten; those of the fraction are dropped.  An error
    is the part that is left when the number turns out to be too large. -/
def numberValue (numeral : List Char) : Except (List Char) Decimal :=
  let whole := numeral.takeWhile Char.isDigit
  let behind := numeral.drop whole.length
  let fraction := if behind.head? = some '.' then (behind.drop 1).takeWhile Char.isDigit else []
  let signed := (behind.dropWhile fun c => c == '.' || c.isDigit).drop 1
  let isSmall := signed.head? = some '-'
  let exponent := signed.dropWhile fun c => c == '+' || c == '-'
  let (n, more) := fitting 0 whole
  let (n, dropped) := fitting n fraction
  let power : Int := (more.length + dropped.length : Int) - fraction.length
  match beyondLimit? 0 exponent with
  | some rest => if n = 0 ∨ isSmall then .ok ⟨0, 0⟩ else .error rest
  | none =>
    let k : Int := Numeral.ofDigits 10 exponent
    match Numeral.product? n (if isSmall then power - k else power + k) with
    | some d => .ok d
    | none => .error []

/-- A number as it is shown: a whole number of at most 64 bits is, any other is a
    double. -/
def foundNumber (isNegative : Bool) (numeral : List Char) : Except (List Char) Found :=
  let n := Numeral.ofDigits 10 numeral
  let isWhole := numeral.all Char.isDigit
  let fits := if isNegative then 0 < n && n ≤ Nat.pow 2 63 else n < Nat.pow 2 64
  if isWhole && fits then .ok (.integer (if isNegative then -n else n))
  else
    (numberValue numeral).map fun d =>
      .fraction ((if isNegative then "-" else "") ++ Shortest.text fractionFormat d)

/-- What is wrong with a number where a value of another type is wanted. -/
def numberTypeFault (wanted : String) (isNegative : Bool) (cs : List Char) : Fault :=
  match skipNumber .endInValue cs with
  | .error f => f
  | .ok rest =>
    match foundNumber isNegative (cs.take (cs.length - rest.length)) with
    | .ok found => ⟨.wrongType found wanted, rest, 0⟩
    | .error more => ⟨.hugeNumber, more ++ rest, 0⟩

/-- What is wrong with the word after its first letter. -/
def wordTypeFault (wanted : String) (found : Found) (letters cs : List Char) : Fault :=
  match word letters cs with
  | .error f => f
  | .ok rest => ⟨.wrongType found wanted, rest, 0⟩

/-- What is wrong with a text where a value of another type is wanted. -/
def typeFault (wanted : String) (cs : List Char) : Fault :=
  match cs with
  | 'n' :: rest => wordTypeFault wanted .null ['u', 'l', 'l'] rest
  | 't' :: rest => wordTypeFault wanted (.bool true) ['r', 'u', 'e'] rest
  | 'f' :: rest => wordTypeFault wanted (.bool false) ['a', 'l', 's', 'e'] rest
  | '-' :: rest => numberTypeFault wanted true rest
  | '"' :: rest =>
    match string rest with
    | .error f => f
    | .ok (s, rest) => ⟨.wrongType (.string (String.ofList s)) wanted, rest, 0⟩
  | '[' :: _ => ⟨.wrongType .list wanted, cs, 0⟩
  | '{' :: _ => ⟨.wrongType .object wanted, cs, 0⟩
  | c :: _ => if c.isDigit then numberTypeFault wanted false cs else ⟨.noValue, cs, 1⟩
  | [] => ⟨.noValue, cs, 1⟩

/-- A truth value, and what is left after it. -/
def bool (cs : List Char) : Except Fault (Bool × List Char) :=
  match skipBlanks cs with
  | [] => .error ⟨.endInValue, [], 0⟩
  | 't' :: rest => (word ['r', 'u', 'e'] rest).map fun r => (true, r)
  | 'f' :: rest => (word ['a', 'l', 's', 'e'] rest).map fun r => (false, r)
  | cs => .error (typeFault "a boolean" cs)

end SoleExport.Json
