/-
  Doubles as short texts.

  A double is written with the fewest digits that are read back as the same
  double.  Numbers of ordinary size are written out with a point; others get an
  exponent.
-/
import SoleExport.Text.Numeral

namespace SoleExport.Shortest

/-- The digits of a number and the power of ten that they are multiplied by. -/
structure Digits where
  mantissa : Nat
  power : Int
deriving DecidableEq, Repr, Inhabited

/-- The double nearest to some digits. -/
def Digits.double? (d : Digits) : Option Decimal :=
  match d.power with
  | .ofNat k => Numeral.nearestDouble? (d.mantissa * Nat.pow 10 k) 1
  | .negSucc k => Numeral.nearestDouble? d.mantissa (Nat.pow 10 (k + 1))

/-- The number of decimal digits. -/
def length (n : Nat) : Nat := (Nat.toDigits 10 n).length

/-- The two numbers of `n` digits next to `m * 10 ^ (-scale)`, the nearer one first. -/
def neighbours (m scale n : Nat) : List Digits :=
  let excess := length m - n
  let unit := Nat.pow 10 excess
  let nearest := Numeral.roundDiv m unit
  let other := if nearest * unit ≤ m then nearest + 1 else nearest - 1
  [nearest, other].map fun digits => ⟨digits, (excess : Int) - scale⟩

/-- The shortest digits, from `n` on, that are read back as the number.  The nearer
    of two neighbours need not be, where the doubles below the number lie closer
    together than those above it. -/
def searchFrom (m scale : Nat) : Nat → Nat → Digits
  | 0, _ => ⟨m, -scale⟩
  | fuel + 1, n =>
    match (neighbours m scale n).find? fun d => d.double? = some ⟨m, scale⟩ with
    | some d => d
    | none => searchFrom m scale fuel (n + 1)

/-- Take the zeros off the end of digits. -/
def trim : Nat → Digits → Digits
  | 0, d => d
  | fuel + 1, d =>
    if d.mantissa % 10 = 0 ∧ d.mantissa ≠ 0 then trim fuel ⟨d.mantissa / 10, d.power + 1⟩ else d

/-- The shortest digits of a double that is not negative. -/
def digits (m scale : Nat) : Digits := trim (length m) (searchFrom m scale 17 1)

/-- How digits are written. -/
structure Format where
  /-- The most places of the point to the right of the first digit at which the
      number is written out. -/
  mostRight : Int
  /-- The most places of the point to the left of the first digit. -/
  mostLeft : Int
  /-- What follows a whole number that is written out. -/
  wholeEnd : String
deriving DecidableEq, Repr, Inhabited

/-- Digits as text: written out if the point is near the first one, else with an
    exponent. -/
def Digits.text (d : Digits) (f : Format) : String :=
  let ds := Nat.toDigits 10 d.mantissa
  let point : Int := ds.length + d.power
  if d.mantissa = 0 then "0" ++ f.wholeEnd
  else if 0 ≤ d.power ∧ point ≤ f.mostRight then
    String.ofList (ds ++ List.replicate d.power.toNat '0') ++ f.wholeEnd
  else if 0 < point ∧ point ≤ f.mostRight then
    String.ofList (ds.take point.toNat) ++ "." ++ String.ofList (ds.drop point.toNat)
  else if -f.mostLeft < point ∧ point ≤ 0 then
    "0." ++ String.ofList (List.replicate (-point).toNat '0' ++ ds)
  else
    let fraction := if ds.length = 1 then "" else "." ++ String.ofList (ds.drop 1)
    let sign := if 0 < point then "+" else ""
    String.ofList (ds.take 1) ++ fraction ++ "e" ++ sign ++ toString (point - 1)

/-- The text of a double. -/
def text (f : Format) (d : Decimal) : String :=
  (if d.mantissa < 0 then "-" else "") ++ (digits d.mantissa.natAbs d.scale).text f

end SoleExport.Shortest
