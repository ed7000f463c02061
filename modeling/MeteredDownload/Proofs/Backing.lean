import MeteredDownload.Proofs.Delivery

/-!
# The memory behind the bytes of a transfer

The store that a transfer hands out is a copy of its own size, unless the working buffer is full to its last cell:
then it is the store of the buffer itself, and a small one is a part of the common store.  Whether that happens
depends on the first store and on the lengths of the blocks, and on nothing else (`Filling`).
-/
set_option autoImplicit false
namespace MeteredDownload

open Numeric

structure Filling where
  room : Nat
  used : Nat
  deriving DecidableEq, Repr

namespace Filling

/-- A block that does not fit makes the store twice as large, or just large enough if that is more. -/
def add (filling : Filling) (count : Nat) : Filling :=
  let used := filling.used + count
  ⟨if filling.room < used then max used (filling.room * 2) else filling.room, used⟩

def addAll (filling : Filling) (counts : List Nat) : Filling := counts.foldl add filling

def IsPooled (filling : Filling) : Prop :=
  filling.used = filling.room ∧ 0 < filling.used ∧ filling.used < Store.poolSize / 2

instance : DecidablePred IsPooled := fun _ => inferInstanceAs (Decidable (_ ∧ _ ∧ _))

theorem add_zero {filling : Filling} (within : filling.used ≤ filling.room) : filling.add 0 = filling := by
  simp only [add, Nat.add_zero, Nat.not_lt.mpr within, if_false]

theorem used_addAll (counts : List Nat) (filling : Filling) :
    (filling.addAll counts).used = filling.used + counts.sum := by
  induction counts generalizing filling with
  | nil => rfl
  | cons count rest ih =>
    have first : (filling.add count).used = filling.used + count := rfl
    rw [addAll, List.foldl_cons, ← addAll, ih, first, List.sum_cons, Nat.add_assoc]

theorem room_addAll_of_le {counts : List Nat} {filling : Filling}
    (within : filling.used + counts.sum ≤ filling.room) : (filling.addAll counts).room = filling.room := by
  induction counts generalizing filling with
  | nil => rfl
  | cons count rest ih =>
    rw [List.sum_cons] at within
    have same : filling.add count = ⟨filling.room, filling.used + count⟩ := by
      have enough : ¬ filling.room < filling.used + count := by omega
      simp only [add, enough, if_false]
    rw [addAll, List.foldl_cons, same]
    exact ih (by dsimp only; omega)

theorem isPooled_of_exact {room : Nat} {counts : List Nat} (exact : counts.sum = room) (some : 0 < room)
    (small : room < Store.poolSize / 2) : (addAll ⟨room, 0⟩ counts).IsPooled := by
  have used : (addAll ⟨room, 0⟩ counts).used = room := by
    rw [used_addAll, exact]
    exact Nat.zero_add room
  have same : (addAll ⟨room, 0⟩ counts).room = room := room_addAll_of_le (by dsimp only; omega)
  exact ⟨used.trans same.symm, by rwa [used], by rwa [used]⟩

end Filling

namespace ByteBuffer

def roomFor (length : Binary64) : Nat :=
  min (Binary64.min length (.ofNat maxPresize)).value.floor.toNat maxPresize

theorem roomFor_natCast (n : Nat) : roomFor (.finite n) = min n maxPresize := by
  have cap : Binary64.ofNat maxPresize = .finite (maxPresize : Nat) := Binary64.ofNat_eq_finite (by decide)
  have whole : ∀ m : Nat, (Binary64.finite (m : Nat)).value.floor.toNat = m := by
    intro m
    have floor : (m : Rat).floor = m := Rat.floor_intCast m
    rw [Binary64.value, floor, Int.toNat_natCast]
  have nonzero : (Binary64.finite (maxPresize : Nat)).isZero = false := by decide +kernel
  have smaller : Binary64.min (.finite n) (.ofNat maxPresize) = .finite (min n maxPresize : Nat) := by
    simp only [cap, Binary64.min, Binary64.isNaN, nonzero, Binary64.le, Binary64.value, Bool.or_self,
      Bool.and_false, Bool.false_eq_true, if_false, decide_eq_true_eq, Nat.cast_le]
    split
    · next less => rw [Nat.min_eq_left less]
    · next more => rw [Nat.min_eq_right (Nat.le_of_not_le more)]
  rw [roomFor, smaller, whole]
  omega

/-- The buffer is filled so far, and its array is one of those that are cut from the common store if they are small. -/
structure Holds (filling : Filling) (b : ByteBuffer) (m : Memory) : Prop where
  room : (m.cells b.address).size = filling.room
  used : b.used = filling.used
  backing : b.backing = (Store.allocate filling.room).backing
  fits : b.Fits m

section Holds
variable {filling : Filling} {b : ByteBuffer} {m : Memory}

theorem holds_withHint (length : Nat) (m : Memory) :
    (withHint length m).1.Holds ⟨min length maxPresize, 0⟩ (withHint length m).2 := by
  refine ⟨?_, rfl, rfl, fits_withHint length m⟩
  rw [withHint, Memory.cells_add, if_pos rfl]
  exact Store.size_allocate _

theorem room_reserve (holds : b.Holds filling m) (count : Nat) :
    ((b.reserve (b.used + count) m).2.cells (b.reserve (b.used + count) m).1.address).size = (filling.add count).room ∧
      (b.reserve (b.used + count) m).1.backing = (Store.allocate (filling.add count).room).backing := by
  by_cases moves : (m.cells b.address).size < b.used + count
  · have room : (filling.add count).room = max (b.used + count) ((m.cells b.address).size * 2) := by
      rw [holds.room, holds.used] at moves
      simp only [Filling.add, moves, if_true, holds.room, holds.used]
    rw [reserve_of_lt moves, Memory.cells_add, if_pos rfl, size_grown, room]
    exact ⟨rfl, rfl⟩
  · have room : (filling.add count).room = filling.room := by
      rw [holds.room, holds.used] at moves
      simp only [Filling.add, moves, if_false]
    rw [reserve_of_le (Nat.le_of_not_lt moves), room]
    exact ⟨holds.room, holds.backing⟩

theorem Holds.append (holds : b.Holds filling m) {source count : Nat} (there : source < m.next)
    (enough : count ≤ (m.cells source).size) :
    ∃ later after, b.append source count m = .ok (later, after) ∧ Appends source count b m later after ∧
      later.Holds (filling.add count) after := by
  obtain ⟨later, after, appended, appends⟩ := appends_append holds.fits there enough
  refine ⟨later, after, appended, appends, ?_⟩
  obtain ⟨room, backing⟩ := room_reserve holds count
  have reserved := le_size_reserve (b.used + count) b m
  have fits := appends.fits
  rw [append_eq] at appended
  cases appended
  -- The write itself stays within the cells that it finds.
  have within : b.used + (((b.reserve (b.used + count) m).2.cells source).extract 0 count).size ≤
      ((b.reserve (b.used + count) m).2.cells (b.reserve (b.used + count) m).1.address).size := by
    rw [ByteArray.size_extract]
    omega
  refine ⟨?_, ?_, backing, fits⟩
  · rw [Memory.size_cells_put within, room]
  · exact congrArg (· + count) holds.used

theorem Holds.of_same {other : Memory} (holds : b.Holds filling m) (fits : b.Fits other)
    (same : other.cells b.address = m.cells b.address) : b.Holds filling other :=
  ⟨same ▸ holds.room, holds.used, holds.backing, fits⟩

/-- What is handed out has a memory of its own size, unless it is a full store cut from the common one. -/
theorem Holds.backing_toStore (holds : b.Holds filling m) :
    (b.toStore m).backing = if filling.IsPooled then Store.poolSize else filling.used := by
  unfold toStore
  dsimp only
  rw [holds.used, holds.room]
  by_cases full : filling.used = filling.room
  · have pooled : filling.IsPooled ↔ 0 < filling.room ∧ filling.room < Store.poolSize / 2 := by
      simp only [Filling.IsPooled, full, true_and]
    rw [if_pos full, holds.backing]
    simp only [Store.allocate, pooled, full]
  · have apart : ¬ filling.IsPooled := fun pooled => full pooled.1
    rw [if_neg full, if_neg apart]
    rfl

end Holds
end ByteBuffer

theorem ReadStep.sum_sizes (steps : List ReadStep) : (steps.map (·.bytes.size)).sum = (join steps).size := by
  induction steps with
  | nil => rfl
  | cons step rest ih => rw [List.map_cons, List.sum_cons, ih, join, ByteArray.size_append]

theorem exists_store_of_toBool {outcome : Except Value Store} (resolved : outcome.toBool = true) :
    ∃ store, outcome = .ok store := by
  cases outcome with
  | ok store => exact ⟨store, rfl⟩
  | error reason => cases resolved

namespace Transfer
variable {κ : Type} [Clock κ]

theorem eq_of_conclude {t : Transfer κ} {interrupts : Nat} {given store : Store} {visits : Array TransferState}
    (resolved : (t.conclude interrupts given visits).outcome = .ok store) : store = given := by
  unfold conclude at resolved
  split at resolved
  · cases resolved
  · cases resolved
    rfl

theorem holds_stored {buffer : ByteBuffer} {memory : Memory} {filling : Filling} (ready : Ready buffer memory)
    (holds : buffer.Holds filling memory) (bytes : ByteArray) :
    (stored bytes buffer memory).1.Holds (filling.add bytes.size) (stored bytes buffer memory).2 := by
  have same := Memory.cells_put_of_ne ready.apart 0 bytes memory
  have there : block < (memory.put block 0 bytes).next := by
    rw [Memory.next_put]
    exact ready.filled
  obtain ⟨later, after, appended, _, held⟩ :=
    (holds.of_same (ready.put bytes).1 same).append there (Memory.size_le_size_put ready.filled bytes)
  rw [append_put] at appended
  rw [Except.ok.inj appended]
  exact held

theorem readAll_fills (steps : List ReadStep) (interrupts : Nat) {buffer : ByteBuffer} {memory : Memory}
    {filling : Filling} (ready : Ready buffer memory) (holds : buffer.Holds filling memory)
    (visits : Array TransferState) (t : Transfer κ) {store : Store}
    (resolved : (t.readAll steps interrupts memory buffer visits).outcome = .ok store) :
    let taken := steps.takeWhile ReadStep.goesOn
    let filled := filling.addAll (taken.map (·.bytes.size))
    store.cells = buffer.bytes memory ++ ReadStep.join taken ∧
      store.backing = if filled.IsPooled then Store.poolSize else filled.used := by
  -- Only the read that is made next bears on the buffer, and a failed one leaves it as it is.
  induction steps generalizing interrupts memory buffer filling visits t with
  | nil =>
    rw [eq_of_conclude resolved]
    exact ⟨by simp [ByteBuffer.cells_toStore holds.fits, ReadStep.join], holds.backing_toStore⟩
  | cons step rest ih =>
    unfold readAll at resolved
    dsimp only at resolved
    cases outcome : step.outcome with
    | error reason =>
      rw [outcome] at resolved
      dsimp only at resolved
      split at resolved
      · next again =>
        have on : step.goesOn = true := by simpa [ReadStep.goesOn, outcome] using again
        have nothing : step.bytes = .empty := by simp [ReadStep.bytes, outcome]
        have still : filling.add step.bytes.size = filling := by
          rw [nothing]
          exact Filling.add_zero (holds.used ▸ holds.room ▸ holds.fits.used)
        have later := ih _ ready holds _ _ resolved
        simp only [List.takeWhile_cons_of_pos on, ReadStep.join, List.map_cons, Filling.addAll,
          List.foldl_cons, still]
        rw [nothing, ByteArray.empty_append]
        exact later
      · cases resolved
    | ok bytes =>
      rw [outcome] at resolved
      dsimp only at resolved
      have gained : step.bytes = bytes := by simp [ReadStep.bytes, outcome]
      split at resolved
      · next nothing =>
        have stop : ¬ step.goesOn = true := by simp [ReadStep.goesOn, outcome, nothing]
        rw [eq_of_conclude resolved]
        simp only [List.takeWhile_cons_of_neg stop]
        exact ⟨by simp [ByteBuffer.cells_toStore holds.fits, ReadStep.join], holds.backing_toStore⟩
      · next filled =>
        have on : step.goesOn = true := by simp [ReadStep.goesOn, outcome, filled]
        obtain ⟨still, held⟩ := ready_stored ready bytes
        rw [append_put] at resolved
        dsimp only at resolved
        split at resolved
        · cases resolved
        · have later := ih _ still (holds_stored ready holds bytes) _ _ resolved
          rw [held] at later
          simp only [List.takeWhile_cons_of_pos on, ReadStep.join, List.map_cons, Filling.addAll,
            List.foldl_cons, gained]
          rw [← ByteArray.append_assoc]
          exact later

omit [Clock κ] in
theorem holds_of_allocate {t : Transfer κ} {buffer : ByteBuffer} {memory : Memory}
    (made : t.allocate = .ok (buffer, memory)) :
    buffer.Holds ⟨ByteBuffer.roomFor (t.announced?.getD t.options.chunkSize), 0⟩ memory := by
  unfold allocate at made
  dsimp only at made
  split at made
  · cases made
  split at made
  · cases made
  unfold ByteBuffer.forLength? at made
  dsimp only at made
  split at made
  · cases made
  · cases made
    exact ByteBuffer.holds_withHint _ _

/-- A transfer that ends well hands out the bytes of its reads, and the memory behind them is of their size, except
where a small store is full in the end: then that memory is the common store.  So it is wherever the length of a
small body was announced as it is. -/
theorem run_is_exact_iff_not_pooled (options : TransferOptions) (source : Source) (clock : κ) (terminal : Terminal)
    (blockSize capacity : Nat) (sized : options.chunkSize.positiveInteger? = some blockSize)
    (sampled : options.speedSamples.positiveInteger? = some capacity) (store : Store)
    (resolved : (run options source clock terminal).outcome = .ok store) :
    let taken := (source.reads blockSize).takeWhile ReadStep.goesOn
    let length := source.announced?.getD options.chunkSize
    let filled := Filling.addAll ⟨ByteBuffer.roomFor length, 0⟩ (taken.map (·.bytes.size))
    store.cells = ReadStep.join taken ∧
    store.backing = (if filled.IsPooled then Store.poolSize else store.cells.size) ∧
    (store.isExact = true ↔ ¬ filled.IsPooled) ∧
    (length = .finite (store.cells.size : Nat) → 0 < store.cells.size → store.cells.size < Store.poolSize / 2 →
      store.backing = Store.poolSize) := by
  intro taken length filled
  rw [run_of_sound sized sampled] at resolved
  generalize begins : opened options source.announced? clock terminal blockSize capacity = begun at resolved
  have announced : begun.announced?.getD begun.options.chunkSize = length := by
    rw [← begins]
    rfl
  have blocks : begun.blockSize = blockSize := by
    rw [← begins]
    rfl
  -- Without room for the bytes a transfer fails, so one that ends well has read its source into a buffer.
  cases made : begun.allocate with
  | error failure =>
    rw [(reading_of_refused made source).1] at resolved
    cases resolved
  | ok room =>
    obtain ⟨ready, nothing⟩ := ready_of_allocate made
    rw [(reading_of_allocated made source).1] at resolved
    obtain ⟨cells, backing⟩ := readAll_fills _ _ ready (holds_of_allocate made) _ _ resolved
    rw [announced, blocks] at backing
    rw [blocks, nothing, ByteArray.empty_append] at cells
    have sizes : (taken.map (·.bytes.size)).sum = store.cells.size := by rw [ReadStep.sum_sizes, cells]
    have used : filled.used = store.cells.size := by
      rw [Filling.used_addAll, sizes]
      exact Nat.zero_add _
    rw [used] at backing
    refine ⟨cells, backing, ?_, ?_⟩
    · rw [Store.isExact, decide_eq_true_iff, backing]
      by_cases pooled : filled.IsPooled
      · rw [if_pos pooled]
        have small : store.cells.size < Store.poolSize / 2 := used ▸ pooled.2.2
        exact iff_of_false (by omega) (not_not_intro pooled)
      · rw [if_neg pooled]
        exact iff_of_true le_rfl pooled
    · intro exact some small
      have room : ByteBuffer.roomFor length = store.cells.size := by
        rw [exact, ByteBuffer.roomFor_natCast]
        exact Nat.min_eq_left (small.le.trans (by decide))
      have pooled := Filling.isPooled_of_exact (sizes.trans room.symm) (room ▸ some) (room ▸ small)
      rw [backing, if_pos pooled]

/-- Nothing is announced, one read is interrupted, and the third block makes the store grow from four cells to eight,
which the fourth then fills. -/
theorem run_is_exact_iff_not_pooled_of_grown_store :
    let again : Value := .error (.raised .error "" none (.text "EINTR"))
    let reads : List ReadStep :=
      [⟨[], .ok ⟨#[1, 2]⟩⟩, ⟨[], .error again⟩, ⟨[], .ok ⟨#[3]⟩⟩, ⟨[], .ok ⟨#[4, 5, 6]⟩⟩, ⟨[], .ok ⟨#[7, 8]⟩⟩]
    let result := run ⟨4, 5, 1000, none, fun _ => true⟩ ⟨none, fun _ => reads, .works⟩ () (.fresh .healthy)
    ∃ store, result.outcome = .ok store ∧ store.cells = ⟨#[1, 2, 3, 4, 5, 6, 7, 8]⟩ ∧ store.isExact = false ∧
      store.backing = Store.poolSize := by
  intro again reads result
  have ended : result.outcome.toBool = true := by decide +kernel
  obtain ⟨store, resolved⟩ := exists_store_of_toBool ended
  obtain ⟨cells, backing, exact, -⟩ := run_is_exact_iff_not_pooled ⟨4, 5, 1000, none, fun _ => true⟩
    ⟨none, fun _ => reads, .works⟩ () (.fresh .healthy) 4 5 (by decide +kernel) (by decide +kernel) store resolved
  have pooled : (Filling.addAll ⟨ByteBuffer.roomFor 4, 0⟩
      ((reads.takeWhile ReadStep.goesOn).map (·.bytes.size))).IsPooled := by
    decide +kernel
  refine ⟨store, resolved, cells, ?_, ?_⟩
  · rw [← Bool.not_eq_true, exact]
    exact not_not_intro pooled
  · rw [backing]
    exact if_pos pooled

/-- Three bytes that were announced as three are handed out as a part of the common store. -/
theorem not_exact_of_every_run :
    ¬ ∀ (options : TransferOptions) (source : Source) (clock : Unit) (terminal : Terminal) (store : Store),
        (run options source clock terminal).outcome = .ok store → store.isExact = true := by
  intro every
  let source : Source := ⟨some 3, fun _ => [⟨[], .ok ⟨#[97, 98, 99]⟩⟩], .works⟩
  have shared :
      ((run ⟨8192, 5, 1000, none, fun _ => true⟩ source () (.fresh .healthy)).outcome.toOption.map Store.isExact) =
      some false := by
    decide +kernel
  cases outcome : (run ⟨8192, 5, 1000, none, fun _ => true⟩ source () (.fresh .healthy)).outcome with
  | error reason =>
    rw [outcome] at shared
    cases shared
  | ok store =>
    rw [outcome] at shared
    have exact := every _ source () _ store outcome
    rw [Except.toOption, Option.map_some, exact] at shared
    cases shared

end Transfer
end MeteredDownload
