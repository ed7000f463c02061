import MeteredDownload.Numeric.Binary64

/-!
# Decimal texts of binary numbers

`shortest` selects the fewest decimal digits that still round to a given number, and of those the
closest; `Binary64.text` lays them out.  `Binary64.fixedText` writes a set number of places of the
exact value, a half going away from zero.
-/
set_option autoImplicit false
namespace MeteredDownload.Numeric

structure Decimal where
  digits : Nat
  exponent : Int
  deriving DecidableEq, Repr

namespace Decimal

def value (d : Decimal) : Rat := d.digits * (10 : Rat) ^ d.exponent

/-- The least `k` with `q < 10 ^ k`, for a positive `q`.  The estimate from the binary order of
magnitude is at most two below it. -/
def scale (q : Rat) : Int :=
  let guess := floorLog2 q * 30103 / 100000
  if q < (10 : Rat) ^ guess then guess
  else if q < (10 : Rat) ^ (guess + 1) then guess + 1
  else guess + 2

/-- Of the two neighbours of `q` among the multiples of `10 ^ exponent`, the one that rounds back to
`q`; of two, the closer, and on a tie the even one. -/
def onGrid? (q : Rat) (exponent : Int) : Option Decimal :=
  let unit := (10 : Rat) ^ exponent
  let below := (q / unit).floor.toNat
  let readsBack (digits : Nat) : Bool := decide (nearest (digits * unit) = q)
  match readsBack below, readsBack (below + 1) with
  | false, false => none
  | true, false => some ⟨below, exponent⟩
  | false, true => some ⟨below + 1, exponent⟩
  | true, true =>
    let middle := (2 * below + 1 : Rat) * unit
    if 2 * q < middle ∨ (2 * q = middle ∧ below % 2 = 0) then some ⟨below, exponent⟩
    else some ⟨below + 1, exponent⟩

def shortest (q : Rat) : Decimal :=
  let k := scale q
  match (List.range 17).findSome? (fun (i : Nat) => onGrid? q (k - 1 - i)) with
  | some d => d
  | none => ⟨(q / (10 : Rat) ^ (k - 17)).floor.toNat, k - 17⟩

def significand (d : Decimal) : List Char × Int :=
  let all := (toString d.digits).toList
  ((all.reverse.dropWhile (· = '0')).reverse, all.length + d.exponent)

def pointed (digits : List Char) (point : Nat) : List Char :=
  digits.take point ++ '.' :: digits.drop point

/-- Positional from `10 ^ (-6)` up to below `10 ^ 21`, otherwise one digit before the point and a
signed exponent. -/
def layout (digits : List Char) (point : Int) : List Char :=
  if digits.length ≤ point ∧ point ≤ 21 then
    digits ++ List.replicate (point.toNat - digits.length) '0'
  else if 0 < point ∧ point ≤ 21 then pointed digits point.toNat
  else if -6 < point ∧ point ≤ 0 then
    ['0', '.'] ++ List.replicate (-point).toNat '0' ++ digits
  else
    let mantissa := if digits.length ≤ 1 then digits else pointed digits 1
    let sign := if point - 1 < 0 then '-' else '+'
    mantissa ++ ['e', sign] ++ (toString (point - 1).natAbs).toList

def text (q : Rat) : String :=
  let (digits, point) := (shortest q).significand
  String.ofList (layout digits point)

end Decimal

namespace Binary64

def text : Binary64 → String
  | nan => "NaN"
  | infinity negative => if negative then "-Infinity" else "Infinity"
  | negativeZero => "0"
  | finite q =>
    if q = 0 then "0"
    else if q < 0 then "-" ++ Decimal.text (-q)
    else Decimal.text q

def fixedDigits (places : Nat) (q : Rat) : String :=
  let digits := (toString (roundHalfUp (q * (10 : Rat) ^ places)).toNat).toList
  let padded := List.replicate (places + 1 - digits.length) '0' ++ digits
  if places = 0 then String.ofList padded
  else String.ofList (Decimal.pointed padded (padded.length - places))

/-- The exact value with `places` digits after the point, a half going away from zero.  A negative
number keeps its sign even where all its digits are zero, but a zero has none.  From `10 ^ 21` on the
shortest text is written instead. -/
def fixedText (places : Nat) (x : Binary64) : String :=
  match x with
  | finite q =>
    if (10 : Rat) ^ (21 : Nat) ≤ magnitude q then x.text
    else if q < 0 then "-" ++ fixedDigits places (-q)
    else fixedDigits places q
  | negativeZero => fixedDigits places 0
  | _ => x.text

end Binary64
end MeteredDownload.Numeric
