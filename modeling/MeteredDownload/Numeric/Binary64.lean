import MeteredDownload.Numeric.Rounding

/-!
# Binary floating point numbers of 64 bits

A number is a rational value on the 53-digit grid, one of two infinities, a zero with a minus sign,
or no number at all.  Every operation is the exact operation on rational numbers followed by one
rounding (`ofRat`), so a result differs from the exact one only where the exact one is off the grid.
-/
set_option autoImplicit false
namespace MeteredDownload.Numeric

/-- A 64-bit binary number.  `finite` holds the exact value; zero with a plus sign is `finite 0`. -/
inductive Binary64 where
  | nan
  | infinity (negative : Bool)
  | negativeZero
  | finite (value : Rat)
  deriving DecidableEq, Repr, Inhabited

namespace Binary64

def overflow : Rat := (2 : Rat) ^ (1024 : Int)

def ofRat (q : Rat) : Binary64 :=
  let r := nearest q
  if overflow ≤ magnitude r then infinity (decide (q < 0)) else finite r

def ofInt (n : Int) : Binary64 := ofRat n
def ofNat (n : Nat) : Binary64 := ofRat n

instance (n : Nat) : OfNat Binary64 n := ⟨ofNat n⟩

def zero (negative : Bool) : Binary64 := if negative then negativeZero else finite 0

/-- The number nearest to `q`; a result that is zero takes the sign given. -/
def ofSigned (negative : Bool) (q : Rat) : Binary64 :=
  if nearest q = 0 then zero negative else ofRat q

/-- The exact value of a finite number; the other numbers count as zero here. -/
def value : Binary64 → Rat
  | finite q => q
  | _ => 0

def isNegative : Binary64 → Bool
  | nan => false
  | infinity negative => negative
  | negativeZero => true
  | finite q => decide (q < 0)

def isNaN : Binary64 → Bool
  | nan => true
  | _ => false

def isFinite : Binary64 → Bool
  | negativeZero | finite _ => true
  | _ => false

def isZero : Binary64 → Bool
  | negativeZero => true
  | finite q => decide (q = 0)
  | _ => false

def isInteger : Binary64 → Bool
  | negativeZero => true
  | finite q => decide (q.den = 1)
  | _ => false

def neg : Binary64 → Binary64
  | nan => nan
  | infinity negative => infinity (!negative)
  | negativeZero => finite 0
  | finite q => if q = 0 then negativeZero else finite (-q)

/-- The rounded sum.  Two zeros with minus signs have a zero with a minus sign as their sum;
infinities of different signs have none. -/
def add : Binary64 → Binary64 → Binary64
  | nan, _ | _, nan => nan
  | infinity a, infinity b => if a = b then infinity a else nan
  | infinity a, _ => infinity a
  | _, infinity b => infinity b
  | negativeZero, y => y
  | x, negativeZero => x
  | finite a, finite b => ofRat (a + b)

def sub (x y : Binary64) : Binary64 := add x y.neg

def mul (x y : Binary64) : Binary64 :=
  let negative := x.isNegative != y.isNegative
  match x, y with
  | nan, _ | _, nan => nan
  | infinity _, y => if y.isZero then nan else infinity negative
  | x, infinity _ => if x.isZero then nan else infinity negative
  | x, y => ofSigned negative (x.value * y.value)

def div (x y : Binary64) : Binary64 :=
  let negative := x.isNegative != y.isNegative
  match x, y with
  | nan, _ | _, nan => nan
  | infinity _, infinity _ => nan
  | infinity _, _ => infinity negative
  | _, infinity _ => zero negative
  | x, y =>
    if y.isZero then if x.isZero then nan else infinity negative
    else ofSigned negative (x.value / y.value)

/-- The remainder of truncated division; it takes the sign of the dividend. -/
def rem (x y : Binary64) : Binary64 :=
  match x, y with
  | nan, _ | _, nan | infinity _, _ => nan
  | x, infinity _ => x
  | x, y =>
    if y.isZero then nan
    else ofSigned x.isNegative (x.value - y.value * truncate (x.value / y.value))

def floor : Binary64 → Binary64
  | finite q => finite q.floor
  | x => x

/-- The nearest whole number, a half going up; a negative number that rounds to zero keeps its sign. -/
def round : Binary64 → Binary64
  | finite q => if roundHalfUp q = 0 then zero (decide (q < 0)) else finite (roundHalfUp q)
  | x => x

/-- The order of numbers, in which the two zeros are equal and nothing compares with `nan`. -/
def le : Binary64 → Binary64 → Bool
  | nan, _ | _, nan => false
  | infinity true, _ | _, infinity false => true
  | infinity false, _ | _, infinity true => false
  | x, y => decide (x.value ≤ y.value)

def lt (x y : Binary64) : Bool := x.le y && !y.le x

def max (x y : Binary64) : Binary64 :=
  if x.isNaN || y.isNaN then nan
  else if x.isZero && y.isZero then zero (x.isNegative && y.isNegative)
  else if x.le y then y else x

def min (x y : Binary64) : Binary64 :=
  if x.isNaN || y.isNaN then nan
  else if x.isZero && y.isZero then zero (x.isNegative || y.isNegative)
  else if x.le y then x else y

instance : Add Binary64 := ⟨add⟩
instance : Sub Binary64 := ⟨sub⟩
instance : Mul Binary64 := ⟨mul⟩
instance : Div Binary64 := ⟨div⟩
instance : Mod Binary64 := ⟨rem⟩
instance : Neg Binary64 := ⟨neg⟩

instance : Zero Binary64 := ⟨finite 0⟩

/-- The largest whole number up to which, and one further, every whole number is on the grid. -/
def maxExactInteger : Nat := Nat.pow 2 53 - 1

def isExactInteger (x : Binary64) : Bool :=
  x.isInteger && decide (magnitude x.value ≤ maxExactInteger)

def positiveInteger? (x : Binary64) : Option Nat :=
  if x.isInteger && decide (1 ≤ x.value) then some x.value.num.toNat else none

end Binary64
end MeteredDownload.Numeric
