import MeteredDownload.Proofs.Backing
import MeteredDownload.Proofs.Exactness

/-!
# How a buffer grows

A buffer is fed from arrays that belong to others, who put other bytes into them between one append and the next
(`Feed`).  However often that happens, and however often the buffer has to move to a larger array, no append fails, the
buffer holds the bytes as they were when they were appended, and its array is never larger than the first one or twice
what it holds (`ByteBuffer.holds_feedAll`, `Filling.room_addAll_le`).
-/
set_option autoImplicit false
namespace MeteredDownload

open Numeric

/-- What happens to the arrays that a buffer is fed from: bytes are put over the first cells of one, or so many of its
first cells are appended to the buffer. -/
inductive Feed where
  | refill (source : Nat) (bytes : ByteArray)
  | append (source count : Nat)

namespace Feed

/-- All arrays are in the memory of others, and no append asks for more bytes than its array has at that time. -/
def Allowed : Memory → List Feed → Prop
  | _, [] => True
  | others, refill source bytes :: rest => source < others.next ∧ Allowed (others.put source 0 bytes) rest
  | others, append source count :: rest =>
    source < others.next ∧ count ≤ (others.cells source).size ∧ Allowed others rest

def pieces : Memory → List Feed → List ByteArray
  | _, [] => []
  | others, refill source bytes :: rest => pieces (others.put source 0 bytes) rest
  | others, append source count :: rest => (others.cells source).extract 0 count :: pieces others rest

def counts : List Feed → List Nat
  | [] => []
  | refill _ _ :: rest => counts rest
  | append _ count :: rest => count :: counts rest

end Feed

/-! ## The room of a store -/

namespace Filling

/-- A store that is larger than the first one is at most twice as large as what is written in it. -/
theorem room_add_le {room : Nat} {filling : Filling} (bounded : filling.room ≤ max room (2 * filling.used))
    (count : Nat) : (filling.add count).room ≤ max room (2 * (filling.add count).used) := by
  unfold add
  dsimp only
  split
  · next moves => omega
  · next stays => omega

theorem room_addAll_le {room : Nat} (counts : List Nat) {filling : Filling}
    (bounded : filling.room ≤ max room (2 * filling.used)) :
    (filling.addAll counts).room ≤ max room (2 * (filling.addAll counts).used) := by
  induction counts generalizing filling with
  | nil => exact bounded
  | cons count rest ih => exact ih (room_add_le bounded count)

end Filling

/-! ## Feeding a buffer -/

namespace ByteBuffer

def feedAll : List Feed → ByteBuffer → Memory → Except Failure (ByteBuffer × Memory)
  | [], b, m => .ok (b, m)
  | .refill source bytes :: rest, b, m => feedAll rest b (m.put source 0 bytes)
  | .append source count :: rest, b, m =>
    match b.append source count m with
    | .error failure => .error failure
    | .ok (later, after) => feedAll rest later after

/-- The memory has the arrays of others as these left them, and the array of the buffer is none of them. -/
structure Beside (others : Memory) (b : ByteBuffer) (m : Memory) : Prop where
  next : others.next ≤ m.next
  cells : ∀ source, source < others.next → m.cells source = others.cells source
  apart : others.next ≤ b.address

section Beside
variable {others m : Memory} {b : ByteBuffer} {filling : Filling}

theorem beside_withHint (length : Nat) (m : Memory) : Beside m (withHint length m).1 (withHint length m).2 := by
  refine ⟨?_, ?_, Nat.le_refl _⟩
  · rw [withHint, Memory.next_add]
    exact Nat.le_succ _
  · intro source there
    rw [withHint, Memory.cells_add, if_neg (Nat.ne_of_lt there)]

theorem Beside.put (beside : Beside others b m) {source : Nat} (there : source < others.next) (bytes : ByteArray) :
    Beside (others.put source 0 bytes) b (m.put source 0 bytes) := by
  refine ⟨?_, ?_, ?_⟩
  · simpa only [Memory.next_put] using beside.next
  · intro other before
    rw [Memory.next_put] at before
    by_cases same : other = source
    · rw [same, Memory.cells_put there, Memory.cells_put (there.trans_le beside.next), beside.cells source there]
    · rw [Memory.cells_put_of_ne same, Memory.cells_put_of_ne same, beside.cells other before]
  · simpa only [Memory.next_put] using beside.apart

theorem Beside.held (beside : Beside others b m) (holds : b.Holds filling m) {source : Nat}
    (there : source < others.next) (bytes : ByteArray) :
    b.Holds filling (m.put source 0 bytes) ∧ b.bytes (m.put source 0 bytes) = b.bytes m := by
  have away : b.address ≠ source := (there.trans_le beside.apart).ne'
  have same := Memory.cells_put_of_ne away 0 bytes m
  have fits : b.Fits (m.put source 0 bytes) := by
    refine ⟨?_, ?_⟩
    · rw [Memory.next_put]
      exact holds.fits.there
    · rw [same]
      exact holds.fits.used
  exact ⟨holds.of_same fits same, by rw [ByteBuffer.bytes, same, ByteBuffer.bytes]⟩

theorem Beside.appended (beside : Beside others b m) {source count : Nat} {later : ByteBuffer} {after : Memory}
    (appends : Appends source count b m later after) : Beside others later after := by
  refine ⟨beside.next.trans appends.next, ?_, ?_⟩
  · intro other before
    have away : other ≠ b.address := (before.trans_le beside.apart).ne
    rw [appends.others other (before.trans_le beside.next) away, beside.cells other before]
  · rcases appends.address with stays | moves
    · rw [stays]
      exact beside.apart
    · rw [moves]
      exact beside.next

/-- A buffer that is fed takes every piece as it stands when it is appended, and none of the appends fails. -/
theorem holds_feedAll (feeds : List Feed) (allowed : Feed.Allowed others feeds) (beside : Beside others b m)
    (holds : b.Holds filling m) :
    ∃ last after, feedAll feeds b m = .ok (last, after) ∧
      last.Holds (filling.addAll (Feed.counts feeds)) after ∧
      last.bytes after = (Feed.pieces others feeds).foldl (· ++ ·) (b.bytes m) := by
  -- What was appended before is a part of the buffer, and no longer of anybody else's array.
  induction feeds generalizing others b m filling with
  | nil => exact ⟨b, m, rfl, holds, rfl⟩
  | cons feed rest ih =>
    cases feed with
    | refill source bytes =>
      obtain ⟨there, allowed⟩ := allowed
      obtain ⟨still, kept⟩ := beside.held holds there bytes
      obtain ⟨last, after, fed, held, gathered⟩ := ih allowed (beside.put there bytes) still
      rw [kept] at gathered
      exact ⟨last, after, fed, held, gathered⟩
    | append source count =>
      obtain ⟨there, enough, allowed⟩ := allowed
      have same := beside.cells source there
      rw [← same] at enough
      obtain ⟨later, between, appended, appends, held⟩ := holds.append (there.trans_le beside.next) enough
      obtain ⟨last, after, fed, filled, gathered⟩ := ih allowed (beside.appended appends) held
      rw [appends.bytes, same] at gathered
      refine ⟨last, after, ?_, filled, gathered⟩
      rw [feedAll, appended]
      exact fed

end Beside

theorem roomFor_of_isWhole {hint : Binary64} {length : Nat} (whole : hint.IsWhole length) :
    roomFor hint = min length maxPresize := by
  rcases whole with rfl | ⟨rfl, zero⟩
  · exact roomFor_natCast length
  · have nothing : length = 0 := by exact_mod_cast zero
    rw [nothing]
    decide +kernel

theorem forLength?_of_isWhole {hint : Binary64} {length : Nat} (whole : hint.IsWhole length) (m : Memory) :
    ∃ first begun, forLength? hint m = .ok (first, begun) ∧ first.Holds ⟨min length maxPresize, 0⟩ begun ∧
      Beside m first begun ∧ first.bytes begun = .empty := by
  have least : Binary64.le 0 hint = true := by
    rw [Binary64.zero_eq_finite, Binary64.le_iff_of_isFinite rfl whole.isFinite, whole.value]
    exact_mod_cast length.cast_nonneg
  obtain ⟨size, made⟩ := Transfer.forLength?_of_sound whole.isInteger least m
  have holds : (withHint size m).1.Holds ⟨min length maxPresize, 0⟩ (withHint size m).2 := by
    have same := made
    rw [← roomFor_of_isWhole whole]
    unfold forLength? at same
    dsimp only at same
    split at same
    · cases same
    · rw [← Except.ok.inj same]
      exact holds_withHint _ m
  exact ⟨_, _, made, holds, beside_withHint size m, bytes_withHint size m⟩

/-- Whatever length a buffer is made for, and whatever becomes of the arrays that it is fed from: no append fails, the
buffer holds the pieces that were appended, one behind the other, and its array never has more room than the first one
or twice what is written. -/
theorem feedAll_holds_pieces (hint : Binary64) (length : Nat) (whole : hint.IsWhole length) (m : Memory)
    (feeds : List Feed) (allowed : Feed.Allowed m feeds) :
    ∃ first begun, forLength? hint m = .ok (first, begun) ∧
      (begun.cells first.address).size = min length maxPresize ∧
      ∃ b after, feedAll feeds first begun = .ok (b, after) ∧
        b.used = (Feed.counts feeds).sum ∧ b.used ≤ (after.cells b.address).size ∧
        (after.cells b.address).extract 0 b.used = (Feed.pieces m feeds).foldl (· ++ ·) .empty ∧
        (after.cells b.address).size ≤ max (min length maxPresize) (2 * b.used) := by
  obtain ⟨first, begun, made, holds, beside, nothing⟩ := forLength?_of_isWhole whole m
  obtain ⟨b, after, fed, held, bytes⟩ := holds_feedAll feeds allowed beside holds
  let start : Filling := ⟨min length maxPresize, 0⟩
  have bounded : start.room ≤ max (min length maxPresize) (2 * start.used) := Nat.le_max_left ..
  have used := Filling.used_addAll (Feed.counts feeds) start
  have room := Filling.room_addAll_le (Feed.counts feeds) bounded
  rw [nothing] at bytes
  refine ⟨first, begun, made, holds.room, b, after, fed, ?_, held.fits.used, bytes, ?_⟩
  · rw [held.used, used, Nat.zero_add]
  · rw [held.room, held.used]
    exact room

/-- Nothing is expected, so the buffer begins without a cell and moves twice.  The array that it is fed from is
overwritten between the two appends and after them. -/
theorem feedAll_holds_pieces_of_no_room :
    let others : Memory := ⟨#[⟨#[1, 2, 3]⟩]⟩
    let feeds : List Feed := [.append 0 3, .refill 0 ⟨#[9, 8]⟩, .append 0 1, .refill 0 ⟨#[0]⟩]
    Feed.Allowed others feeds ∧ ∃ first begun, forLength? 0 others = .ok (first, begun) ∧
      (begun.cells first.address).size = 0 ∧ ∃ b after, feedAll feeds first begun = .ok (b, after) ∧
        b.used = 4 ∧ 4 ≤ (after.cells b.address).size ∧
        (after.cells b.address).extract 0 4 = ⟨#[1, 2, 3, 9]⟩ ∧ (after.cells b.address).size ≤ 8 := by
  intro others feeds
  have whole : (0 : Binary64).IsWhole 0 := Binary64.isWhole_ofNat (by decide)
  have allowed : Feed.Allowed others feeds :=
    ⟨by decide, by decide, by decide, by decide, by decide +kernel, by decide, trivial⟩
  obtain ⟨first, begun, made, empty, b, after, fed, used, fits, bytes, room⟩ :=
    feedAll_holds_pieces 0 0 whole others feeds allowed
  have four : b.used = 4 := used
  rw [four] at fits bytes room
  exact ⟨allowed, first, begun, made, empty, b, after, fed, four, fits, bytes.trans (by decide +kernel), room⟩

end ByteBuffer
end MeteredDownload
