import MeteredDownload.Value

/-!
# The speed of a transfer

A window keeps the amounts of the last few completed intervals, newest first, and their mean is the
speed.  The amounts can be of any type that adds up and has a numeric value.
-/
set_option autoImplicit false
namespace MeteredDownload

open Numeric

class Amount (α : Type) extends Add α, Zero α where
  toBinary64 : α → Binary64

instance : Amount Nat where
  toAdd := instAddNat
  toZero := ⟨0⟩
  toBinary64 := Binary64.ofNat

instance : Amount Binary64 := ⟨id⟩

structure SpeedWindow (α : Type) where
  capacity : Nat
  samples : List α
  pending : α
  deriving DecidableEq, Repr

namespace SpeedWindow

def defaultCapacity : Binary64 := 5

variable {α : Type} [Amount α]

def empty (capacity : Nat) : SpeedWindow α := ⟨capacity, [], 0⟩

def open? (capacity : Binary64) : Except Failure (SpeedWindow α) :=
  match capacity.positiveInteger? with
  | some n => .ok (empty n)
  | none => .error (.sampleCapacity capacity)

def record (n : α) (w : SpeedWindow α) : SpeedWindow α := { w with pending := w.pending + n }

/-- Completes the interval in progress.  A full window gives up its oldest sample. -/
def commit (w : SpeedWindow α) : SpeedWindow α :=
  let kept := if w.samples.length = w.capacity then w.samples.dropLast else w.samples
  { w with samples := w.pending :: kept, pending := 0 }

def sum (w : SpeedWindow α) : Binary64 :=
  w.samples.foldl (fun total sample => total + Amount.toBinary64 sample) 0

/-- The mean of the samples, rounded down.  Without samples the announced length stands in, or zero:
what has arrived so far came in less than one interval. -/
def speed (announced? : Option Binary64) (w : SpeedWindow α) : Binary64 :=
  if w.samples.isEmpty then announced?.getD 0
  else (w.sum / Binary64.ofNat w.samples.length).floor

end SpeedWindow
end MeteredDownload
