import MeteredDownload.Text.Base64
import MeteredDownload.Text.Split
import MeteredDownload.Url.Percent

/-!
# Data within URLs

A `data:` URL is its own body: what follows the first comma, one byte to each character, which in turn are
read in base 64 if one of the words before the comma says so.
-/
set_option autoImplicit false
namespace MeteredDownload.Http

open Text Url

def quad? (a b c d : Char) : Option Nat := do
  return 4096 * (← hexValue? a) + 256 * (← hexValue? b) + 16 * (← hexValue? c) + (← hexValue? d)

def decodeCodes : List Char → List Nat
  | '%' :: 'u' :: a :: b :: c :: d :: rest =>
    match quad? a b c d with
    | some n => n :: decodeCodes rest
    | none => '%'.toNat :: decodeCodes ('u' :: a :: b :: c :: d :: rest)
  | '%' :: a :: b :: rest =>
    match hexValue? a, hexValue? b with
    | some m, some n => (16 * m + n) :: decodeCodes rest
    | _, _ => '%'.toNat :: decodeCodes (a :: b :: rest)
  | c :: rest => c.toNat :: decodeCodes rest
  | [] => []

def dataBytes? (s : List Char) : Option ByteArray :=
  match cut ',' s with
  | (_, none) => none
  | (kind, some data) =>
    let bytes := (decodeCodes data).map UInt8.ofNat
    let isBase64 := ((splitOn ';' kind).drop 1).contains "base64".toList
    let content := if isBase64 then Base64.gather (bytes.map fun b => Char.ofNat b.toNat) else bytes
    some ⟨content.toArray⟩

end MeteredDownload.Http
