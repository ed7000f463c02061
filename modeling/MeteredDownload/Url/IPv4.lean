import MeteredDownload.Text.Split
import MeteredDownload.Url.Percent

/-!
# Addresses of four bytes

A host whose last label looks like a number has to be such an address.  Its numbers may be written in base
ten, eight or sixteen, and the last of fewer than four numbers fills the bytes that are left.
-/
set_option autoImplicit false
namespace MeteredDownload.Url.IPv4

def digits? (radix : Nat) (s : List Char) : Option Nat :=
  s.foldlM (fun n c => do
    let d ← hexValue? c
    if d < radix then some (radix * n + d) else none) 0

def number? : List Char → Option Nat
  | [] => none
  | '0' :: 'x' :: rest | '0' :: 'X' :: rest => digits? 16 rest
  | '0' :: c :: rest => digits? 8 (c :: rest)
  | s => digits? 10 s

def labels (host : List Char) : List (List Char) :=
  let parts := Text.splitOn '.' host
  if parts.length ≠ 1 ∧ parts.getLast? = some [] then parts.dropLast else parts

def endsInNumber (host : List Char) : Bool :=
  match (labels host).getLast? with
  | none | some [] => false
  | some last => last.all Char.isDigit || (number? last).isSome

def parse? (host : List Char) : Option Nat := do
  let numbers ← (labels host).mapM number?
  let last ← numbers.getLast?
  let front := numbers.dropLast
  let room := Nat.pow 256 (4 - front.length)
  if 3 < front.length ∨ front.any (255 < ·) ∨ room ≤ last then none
  else some (front.foldl (fun value n => 256 * value + n) 0 * room + last)

def text (address : Nat) : List Char :=
  List.intercalate ['.'] ([3, 2, 1, 0].map fun i => (toString (address / Nat.pow 256 i % 256)).toList)

end MeteredDownload.Url.IPv4
