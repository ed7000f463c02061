import MeteredDownload.Numeric.Binary64
import MeteredDownload.Text.Blank

/-!
# The announced length of a body

A header announces a length only if it is a row of decimal digits, blanks around it aside, and its value
is a number that counts exactly.
-/
set_option autoImplicit false
namespace MeteredDownload.Http

open Numeric Text

def decimalValue (digits : List Char) : Nat :=
  digits.foldl (fun n c => 10 * n + (c.toNat - '0'.toNat)) 0

def contentLength? (header : String) : Option Binary64 :=
  let digits := trim header.toList
  let length := Binary64.ofNat (decimalValue digits)
  if !digits.isEmpty && digits.all Char.isDigit && length.isExactInteger then some length else none

end MeteredDownload.Http
