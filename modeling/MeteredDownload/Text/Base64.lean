/-!
# Bytes in base 64

Four characters stand for three bytes.  `Base64.decode?` wants complete groups with their padding, and
`Base64.gather` takes what it finds up to the first padding: it passes over all that is no digit and drops an
incomplete byte.
-/
set_option autoImplicit false
namespace MeteredDownload.Text.Base64

def value? (c : Char) : Option Nat :=
  if c.isUpper then some (c.toNat - 'A'.toNat)
  else if c.isLower then some (c.toNat - 'a'.toNat + 26)
  else if c.isDigit then some (c.toNat - '0'.toNat + 52)
  else if c = '+' then some 62
  else if c = '/' then some 63
  else none

def anyValue? (c : Char) : Option Nat :=
  if c = '-' then some 62 else if c = '_' then some 63 else value? c

def bytesOf : List Nat → List UInt8
  | a :: b :: c :: d :: rest =>
    UInt8.ofNat (4 * a + b / 16) :: UInt8.ofNat (b % 16 * 16 + c / 4) :: UInt8.ofNat (c % 4 * 64 + d)
      :: bytesOf rest
  | [a, b, c] => [UInt8.ofNat (4 * a + b / 16), UInt8.ofNat (b % 16 * 16 + c / 4)]
  | [a, b] => [UInt8.ofNat (4 * a + b / 16)]
  | _ => []

/-- The bytes of complete groups; up to two equals signs fill the last. -/
def decode? (s : List Char) : Option (List UInt8) := do
  let digits := (s.reverse.dropWhile (· = '=')).reverse
  let padding := s.length - digits.length
  let values ← digits.mapM value?
  if s.length % 4 = 0 ∧ padding ≤ 2 then some (bytesOf values) else none

def gather (s : List Char) : List UInt8 := bytesOf ((s.takeWhile (· ≠ '=')).filterMap anyValue?)

end MeteredDownload.Text.Base64
