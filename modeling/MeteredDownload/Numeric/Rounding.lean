/-!
# Rounding to a grid

`roundHalfEven` and `roundHalfUp` take a rational number to a nearest integer; they differ only on
exact halves.  `floorLog2` is the binary order of magnitude of a positive rational number, and
`nearest` rounds to the grid of numbers with 53 significant binary digits, no finer than `2 ^ (-1074)`.
-/
set_option autoImplicit false
namespace MeteredDownload.Numeric

def magnitude (q : Rat) : Rat := if q < 0 then -q else q

def roundHalfEven (q : Rat) : Int :=
  let below := q.floor
  let rest := q - below
  if rest < 1 / 2 then below
  else if 1 / 2 < rest then below + 1
  else if below % 2 = 0 then below else below + 1

def roundHalfUp (q : Rat) : Int := (q + 1 / 2).floor

def truncate (q : Rat) : Int := if q < 0 then -(-q).floor else q.floor

def floorLog2 (q : Rat) : Int :=
  let guess : Int := (q.num.natAbs.log2 : Int) - (q.den.log2 : Int)
  if (2 : Rat) ^ guess ≤ q then guess else guess - 1

/-- The exponent of the grid on which `q` is rounded: 53 binary digits from its leading one down, and
never below `-1074`. -/
def gridExponent (q : Rat) : Int := max (floorLog2 (magnitude q) - 52) (-1074)

def gridUnit (q : Rat) : Rat := (2 : Rat) ^ gridExponent q

def nearest (q : Rat) : Rat := roundHalfEven (q / gridUnit q) * gridUnit q

end MeteredDownload.Numeric
