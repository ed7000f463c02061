/-!
# Texts from bytes

Every sequence of bytes can be read as a text: where it is not well formed, each longest part that could
begin a character counts as one replacement character.
-/
set_option autoImplicit false
namespace MeteredDownload.Text

def replacement : Char := '\ufffd'

/-- How a sequence that begins with the byte goes on: how many bytes follow, the bits of the first byte,
and the range of the second. -/
def leadOf? (b : Nat) : Option (Nat × Nat × Nat × Nat) :=
  if 0xC2 ≤ b ∧ b ≤ 0xDF then some (1, b - 0xC0, 0x80, 0xBF)
  else if b = 0xE0 then some (2, 0, 0xA0, 0xBF)
  else if b = 0xED then some (2, 0xD, 0x80, 0x9F)
  else if 0xE1 ≤ b ∧ b ≤ 0xEF then some (2, b - 0xE0, 0x80, 0xBF)
  else if b = 0xF0 then some (3, 0, 0x90, 0xBF)
  else if b = 0xF4 then some (3, 4, 0x80, 0x8F)
  else if 0xF1 ≤ b ∧ b ≤ 0xF3 then some (3, b - 0xF0, 0x80, 0xBF)
  else none

/-- What has been read of a character: its bits so far, how many bytes are still to come, and the range of
the next. -/
structure Unfinished where
  bits : Nat
  left : Nat
  low : Nat
  high : Nat
  deriving DecidableEq, Repr

def readLead (b : Nat) : List Char × Option Unfinished :=
  if b < 0x80 then ([Char.ofNat b], none)
  else match leadOf? b with
    | some (left, bits, low, high) => ([], some ⟨bits, left, low, high⟩)
    | none => ([replacement], none)

/-- Reads one byte.  A byte that does not go on with a character ends it and begins anew. -/
def readByte (state : Option Unfinished) (b : Nat) : List Char × Option Unfinished :=
  match state with
  | none => readLead b
  | some p =>
    if p.low ≤ b ∧ b ≤ p.high then
      let bits := 64 * p.bits + (b - 0x80)
      if p.left ≤ 1 then ([Char.ofNat bits], none) else ([], some ⟨bits, p.left - 1, 0x80, 0xBF⟩)
    else
      let (chars, next) := readLead b
      (replacement :: chars, next)

def charsFrom (state : Option Unfinished) : List UInt8 → List Char
  | [] => if state.isSome then [replacement] else []
  | b :: rest =>
    let (chars, next) := readByte state b.toNat
    chars ++ charsFrom next rest

def ofBytes (bytes : ByteArray) : String := String.ofList (charsFrom none bytes.toList)

end MeteredDownload.Text
