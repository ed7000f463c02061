/-!
# Texts in 16-bit units

A character beyond the first 65536 counts as a pair of units.  In the order of texts by their units such
pairs come before U+E000; otherwise the order is that of the characters.
-/
set_option autoImplicit false
namespace MeteredDownload.Text

def unitsOf (c : Char) : List Nat :=
  let n := c.toNat
  if n < 0x10000 then [n] else [0xD800 + (n - 0x10000) / 0x400, 0xDC00 + (n - 0x10000) % 0x400]

def units (s : String) : List Nat := s.toList.flatMap unitsOf

def takeUnits : Nat → List Char → List Char
  | _, [] => []
  | n, c :: rest =>
    let width := (unitsOf c).length
    if width ≤ n then c :: takeUnits (n - width) rest else []

def unitsLe (s t : String) : Bool := !decide (units t < units s)

end MeteredDownload.Text
