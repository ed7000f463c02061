import MeteredDownload.Text.Split
import MeteredDownload.Url.Percent

/-!
# Addresses of eight pieces

Pieces of 16 bits stand between colons, the last two may be an address of four bytes, and one double colon
stands for pieces of value zero.  The text of an address shortens its longest row of zeros that way.
-/
set_option autoImplicit false
namespace MeteredDownload.Url.IPv6

/-- One of the four bytes at the end: in base ten, without a zero in front. -/
def byte? (s : List Char) : Option Nat :=
  let n := s.foldl (fun n c => 10 * n + (c.toNat - '0'.toNat)) 0
  if s.isEmpty || !s.all Char.isDigit || (s.head? = some '0' && s.length ≠ 1) || 3 < s.length || 255 < n
  then none
  else some n

def piece? (s : List Char) : Option Nat :=
  if s.isEmpty || 4 < s.length then none
  else s.foldlM (fun n c => (hexValue? c).map (16 * n + ·)) 0

/-- The values of pieces; the last may be an address of four bytes, if that is allowed. -/
def pieces? (last : Bool) : List (List Char) → Option (List Nat)
  | [] => some []
  | [s] =>
    if last && s.contains '.' then do
      match ← (Text.splitOn '.' s).mapM byte? with
      | [a, b, c, d] => some [256 * a + b, 256 * c + d]
      | _ => none
    else do return [← piece? s]
  | s :: rest => do return (← piece? s) :: (← pieces? last rest)

def row? (last : Bool) (s : List Char) : Option (List Nat) :=
  if s.isEmpty then some [] else pieces? last (Text.splitOn ':' s)

def cutDouble : List Char → List Char × Option (List Char)
  | ':' :: ':' :: rest => ([], some rest)
  | c :: rest =>
    let (front, back?) := cutDouble rest
    (c :: front, back?)
  | [] => ([], none)

def parse? (s : List Char) : Option (List Nat) := do
  match cutDouble s with
  | (front, none) =>
    let pieces ← pieces? true (Text.splitOn ':' front)
    if pieces.length = 8 then some pieces else none
  | (front, some back) =>
    let front ← row? false front
    let back ← row? true back
    if front.length + back.length ≤ 7 then
      some (front ++ List.replicate (8 - front.length - back.length) 0 ++ back)
    else none

def zerosAt (pieces : List Nat) : Nat := (pieces.takeWhile (· = 0)).length

/-- Where the longest row of zeros begins and how long it is; the first of equal length counts. -/
def longestZeros : List Nat → Nat × Nat
  | [] => (0, 0)
  | n :: rest =>
    let here := zerosAt (n :: rest)
    let (start, length) := longestZeros rest
    if length ≤ here then (0, here) else (start + 1, length)

def joined (pieces : List Nat) : List Char :=
  List.intercalate [':'] (pieces.map (Text.hexDigits 1))

def text (pieces : List Nat) : List Char :=
  let (start, length) := longestZeros pieces
  if length < 2 then joined pieces
  else joined (pieces.take start) ++ [':', ':'] ++ joined (pieces.drop (start + length))

end MeteredDownload.Url.IPv6
