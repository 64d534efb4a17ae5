/-
  The values of numerals.

  A numeral stands for the double-precision number nearest to it, with ties to
  the even mantissa.  The number is found exactly, in whole-number arithmetic,
  and kept as a decimal.
-/
import SoleExport.Tree

namespace SoleExport.Numeral

/-! ## Digits -/

/-- The value of a digit, up to base sixteen. -/
def digit (c : Char) : Nat :=
  if c.isDigit then c.toNat - '0'.toNat
  else if 'a' ≤ c ∧ c ≤ 'f' then c.toNat - 'a'.toNat + 10
  else if 'A' ≤ c ∧ c ≤ 'F' then c.toNat - 'A'.toNat + 10
  else 0

/-- Whether the character is a digit of base sixteen. -/
def isHexDigit (c : Char) : Bool := c.isDigit || ('a' ≤ c && c ≤ 'f') || ('A' ≤ c && c ≤ 'F')

/-- The value of digits in a base. -/
def ofDigits (base : Nat) (cs : List Char) : Nat := cs.foldl (fun n c => n * base + digit c) 0

/-- A decimal written out. -/
def writtenOut (d : Decimal) : String :=
  let sign := if d.mantissa < 0 then "-" else ""
  let digits := Nat.toDigits 10 d.mantissa.natAbs
  let padded := List.replicate (d.scale + 1 - digits.length) '0' ++ digits
  let whole := padded.take (padded.length - d.scale)
  let fraction := padded.drop (padded.length - d.scale)
  if fraction.isEmpty then sign ++ String.ofList whole
  else sign ++ String.ofList whole ++ "." ++ String.ofList fraction

/-! ## Doubles -/

/-- The quotient rounded to the nearest whole number, a half to the even one. -/
def roundDiv (n d : Nat) : Nat :=
  let q := n / d
  let r := n % d
  if 2 * r < d then q else if d < 2 * r then q + 1 else if q % 2 = 0 then q else q + 1

/-- The greatest `e` with `2 ^ e * d ≤ n`, as a whole number. -/
def exponent (n d : Nat) : Int :=
  let e : Int := (Nat.log2 n : Int) - (Nat.log2 d : Int)
  let fits : Bool := match e with
    | .ofNat k => decide (Nat.pow 2 k * d ≤ n)
    | .negSucc k => decide (d ≤ n * Nat.pow 2 (k + 1))
  if fits then e else e - 1

/-- The decimal `m * 2 ^ e`. -/
def scaled (m : Nat) : Int → Decimal
  | .ofNat k => ⟨m * Nat.pow 2 k, 0⟩
  | .negSucc k =>
    if m % Nat.pow 2 (k + 1) = 0 then ⟨m / Nat.pow 2 (k + 1), 0⟩ else ⟨m * Nat.pow 5 (k + 1), k + 1⟩

/-- The double nearest to `n / d`, unless it is too large to be finite. -/
def nearestDouble? (n d : Nat) : Option Decimal :=
  if n = 0 then some ⟨0, 0⟩
  else
    let unit : Int := max (exponent n d - 52) (-1074)
    let m := match unit with
      | .ofNat k => roundDiv n (d * Nat.pow 2 k)
      | .negSucc k => roundDiv (n * Nat.pow 2 (k + 1)) d
    match unit with
    | .ofNat k => if Nat.pow 2 1024 ≤ m * Nat.pow 2 k then none else some (scaled m unit)
    | _ => some (scaled m unit)

/-! ## Rounding twice -/

/-- The double nearest to the product of two, unless it is too large. -/
def times? (a b : Decimal) : Option Decimal :=
  nearestDouble? (a.mantissa.natAbs * b.mantissa.natAbs) (Nat.pow 10 (a.scale + b.scale))

/-- The double nearest to the quotient of two. -/
def quotient (a b : Decimal) : Decimal :=
  (nearestDouble? (a.mantissa.natAbs * Nat.pow 10 b.scale)
    (b.mantissa.natAbs * Nat.pow 10 a.scale)).getD ⟨0, 0⟩

/-- The double nearest to a power of ten. -/
def powerOfTen (k : Nat) : Decimal := (nearestDouble? (Nat.pow 10 k) 1).getD ⟨0, 0⟩

/-- The greatest power of ten that is a double. -/
def maxPower : Nat := 308

/-- A double divided by a power of ten, in steps of powers that are doubles.  What
    is left after `fuel` steps is too small to count. -/
def dividedBy : Nat → Decimal → Nat → Decimal
  | 0, _, _ => ⟨0, 0⟩
  | fuel + 1, d, k =>
    if d.mantissa = 0 then d
    else if k ≤ maxPower then quotient d (powerOfTen k)
    else dividedBy fuel (quotient d (powerOfTen maxPower)) (k - maxPower)

/-- The double that is read for `n * 10 ^ power`, unless it is too large.  Both
    factors and the product are rounded, so it need not be the nearest one. -/
def product? (n : Nat) (power : Int) : Option Decimal := do
  let d ← nearestDouble? n 1
  match power with
  | .ofNat k =>
    if k ≤ maxPower then times? d (powerOfTen k)
    else if n = 0 then some d
    else none
  | .negSucc k => return dividedBy 4 d (k + 1)

/-! ## Numerals -/

/-- Take a sign off an exponent. -/
def signed (cs : List Char) : Int :=
  match cs with
  | '-' :: ds => -(ofDigits 10 ds : Int)
  | '+' :: ds => ofDigits 10 ds
  | ds => ofDigits 10 ds

/-- The double nearest to a decimal numeral.  Powers of ten that are far out of
    range are not worked out. -/
def decimal? (cs : List Char) : Option Decimal :=
  let isMark (c : Char) : Bool := c == 'e' || c == 'E'
  let mantissa := cs.takeWhile fun c => !isMark c
  let whole := mantissa.takeWhile (· != '.')
  let fraction := (mantissa.dropWhile (· != '.')).drop 1
  let power := signed ((cs.dropWhile fun c => !isMark c).drop 1) - fraction.length
  let n := ofDigits 10 (whole ++ fraction)
  if n = 0 ∨ power < -(400 + (whole ++ fraction).length) then some ⟨0, 0⟩
  else if 400 < power then none
  else match power with
  | .ofNat k => nearestDouble? (n * Nat.pow 10 k) 1
  | .negSucc k => nearestDouble? n (Nat.pow 10 (k + 1))

/-- Whether a numeral with a leading zero is written in base eight. -/
def isOldOctal (cs : List Char) : Bool :=
  match cs with
  | '0' :: d :: ds => (d :: ds).all fun c => '0' ≤ c && c ≤ '7'
  | _ => false

/-- The digits of a whole numeral, with their base. -/
def wholePart (cs : List Char) : Nat × List Char :=
  match cs with
  | '0' :: 'x' :: ds | '0' :: 'X' :: ds => (16, ds)
  | '0' :: 'o' :: ds | '0' :: 'O' :: ds => (8, ds)
  | '0' :: 'b' :: ds | '0' :: 'B' :: ds => (2, ds)
  | cs => (if isOldOctal cs then 8 else 10, cs)

/-- The value of a numeral, if it is finite. -/
def value? (raw : List Char) : Option Decimal :=
  let (base, ds) := wholePart (raw.filter (· != '_'))
  if base = 10 then decimal? ds else nearestDouble? (ofDigits base ds) 1

/-- The value of a whole numeral. -/
def whole (raw : List Char) : Nat :=
  let (base, ds) := wholePart (raw.filter (· != '_'))
  ofDigits base ds

end SoleExport.Numeral
