import MeteredDownload.Proofs.Binary64
import MeteredDownload.Proofs.ByteBuffer
import MeteredDownload.Transfer

/-!
# How a transfer starts, and what its steps never change

No step of a transfer changes its options, so a listener that never objects never stops it.  A transfer that
has sound options starts, and it gets the room it needs wherever its machine gives it the block.
-/
set_option autoImplicit false
namespace MeteredDownload

open Numeric Report

def TransferOptions.Unopposed (options : TransferOptions) : Prop :=
  ∀ listener ∈ options.listener?, ∀ i, listener.objection i = none

structure TransferOptions.Sound (options : TransferOptions) : Prop where
  sized : options.chunkSize.positiveInteger?.isSome = true
  sampled : options.speedSamples.positiveInteger?.isSome = true

/-- A block of so many bytes can be had: it is no longer than any array can be, and the machine gives it. -/
structure TransferOptions.HasRoom (options : TransferOptions) (blockSize : Nat) : Prop where
  short : blockSize ≤ Binary64.maxExactInteger
  given : options.allocates blockSize = true

def Source.AnnouncesLength (announced? : Option Binary64) : Prop :=
  ∀ length ∈ announced?, length.isInteger = true ∧ Binary64.le 0 length = true

namespace Transfer

/-! ## Room for the bytes -/

section Room
variable {κ : Type}

theorem forLength?_of_sound {length : Binary64} (whole : length.isInteger = true)
    (least : Binary64.le 0 length = true) (m : Memory) :
    ∃ size, ByteBuffer.forLength? length m = .ok (ByteBuffer.withHint size m) := by
  have cap : Binary64.ofNat ByteBuffer.maxPresize = .finite (ByteBuffer.maxPresize : Nat) :=
    Binary64.ofNat_eq_finite (by decide)
  have number : length.isNaN = false := by
    cases length with
    | nan => cases whole
    | _ => rfl
  -- The smaller of the length and the cap is one of the two.
  have either : length.min (.ofNat ByteBuffer.maxPresize) = length ∨
      length.min (.ofNat ByteBuffer.maxPresize) = .finite (ByteBuffer.maxPresize : Nat) := by
    rw [cap]
    unfold Binary64.min
    rw [number]
    split
    · next h => exact absurd h (by decide)
    · split
      · next h => exact absurd (Bool.and_eq_true_iff.mp h).2 (by decide +kernel)
      · split
        · exact Or.inl rfl
        · exact Or.inr rfl
  unfold ByteBuffer.forLength?
  rcases either with same | capped
  · have checked : (length.isNaN || length.lt 0) = false := by
      rw [number, Binary64.lt, least]
      simp
    refine ⟨length.value.floor.toNat, ?_⟩
    simp only [same, checked, Bool.false_eq_true, if_false]
  · have checked : ((Binary64.finite (ByteBuffer.maxPresize : Nat)).isNaN ||
        (Binary64.finite (ByteBuffer.maxPresize : Nat)).lt 0) = false := by
      decide +kernel
    refine ⟨ByteBuffer.maxPresize, ?_⟩
    simp only [capped, checked, Bool.false_eq_true, if_false]
    rfl

theorem lt_blockSize_iff {t : Transfer κ} (sized : t.options.chunkSize.positiveInteger? = some t.blockSize) :
    (Binary64.ofNat Binary64.maxExactInteger).lt t.options.chunkSize =
      decide (Binary64.maxExactInteger < t.blockSize) := by
  have longest : Binary64.ofNat Binary64.maxExactInteger = .finite (Binary64.maxExactInteger : Nat) :=
    Binary64.ofNat_eq_finite (by decide)
  rw [longest, (Binary64.eq_finite_of_positiveInteger? sized).1, Binary64.lt, Bool.eq_iff_iff]
  simp only [Binary64.le, Binary64.value, Nat.cast_le, Bool.and_eq_true, decide_eq_true_eq, Bool.not_eq_true',
    decide_eq_false_iff_not, Nat.not_le]
  exact and_iff_right_of_imp Nat.le_of_lt

theorem allocate_of_hasRoom {t : Transfer κ} (sized : t.options.chunkSize.positiveInteger? = some t.blockSize)
    (announced : Source.AnnouncesLength t.announced?) (room : t.options.HasRoom t.blockSize) :
    ∃ buffer memory, t.allocate = .ok (buffer, memory) := by
  have short := lt_blockSize_iff sized
  rw [decide_eq_false (Nat.not_lt.mpr room.short)] at short
  have sound : (t.announced?.getD t.options.chunkSize).isInteger = true ∧
      Binary64.le 0 (t.announced?.getD t.options.chunkSize) = true := by
    cases length : t.announced? with
    | some n => exact announced n length
    | none =>
      have zero : (0 : Binary64) = .finite (0 : Nat) := Binary64.ofNat_eq_finite (by decide)
      rw [Option.getD_none, (Binary64.eq_finite_of_positiveInteger? sized).1, zero]
      simp [Binary64.isInteger, Binary64.le, Binary64.value]
  obtain ⟨size, made⟩ := forLength?_of_sound sound.1 sound.2 blank
  have same : t.allocate = .ok (ByteBuffer.withHint size blank) := by
    simp only [allocate, short, room.given, Bool.not_true, Bool.false_eq_true, if_false, made]
  exact ⟨_, _, same⟩

def refusal (options : TransferOptions) (blockSize : Nat) : Failure :=
  if Binary64.maxExactInteger < blockSize then .blockLength options.chunkSize else .memory

theorem allocate_of_no_room {t : Transfer κ} (sized : t.options.chunkSize.positiveInteger? = some t.blockSize)
    (none : ¬ t.options.HasRoom t.blockSize) : t.allocate = .error (refusal t.options t.blockSize) := by
  have long := lt_blockSize_iff sized
  unfold allocate refusal
  dsimp only
  by_cases beyond : Binary64.maxExactInteger < t.blockSize
  · rw [long, decide_eq_true beyond, if_pos rfl, if_pos beyond]
  · have refused : t.options.allocates t.blockSize = false := by
      rw [← Bool.not_eq_true]
      exact fun given => none ⟨Nat.le_of_not_lt beyond, given⟩
    rw [long, decide_eq_false beyond, refused, if_neg beyond]
    rfl

end Room

variable {κ : Type} [Clock κ]

/-! ## Steps keep the options -/

theorem options_report (t : Transfer κ) : t.report.1.options = t.options := by
  unfold report
  dsimp only
  split <;> rfl

theorem objection_report {t : Transfer κ} (unopposed : t.options.Unopposed) : t.report.2 = none := by
  have heard : (t.now.2.onDisplay (·.draw (t.now.2.snapshotAt t.now.1).line)).options = t.options := rfl
  unfold report
  dsimp only
  split
  · rfl
  · next listener seated => exact unopposed listener (heard ▸ seated) _

theorem options_tick (t : Transfer κ) : t.tick.1.options = t.options := by
  have reported := options_report { t with window := t.window.commit }
  unfold tick
  split
  · next u objection result => rwa [result] at reported
  · next u result => rw [result] at reported; exact reported

theorem objection_tick {t : Transfer κ} (unopposed : t.options.Unopposed) : t.tick.2 = none := by
  have silent := objection_report (t := { t with window := t.window.commit }) unopposed
  unfold tick
  split
  · next u objection result => rw [result] at silent; cases silent
  · rfl

theorem options_receive (count : Nat) (t : Transfer κ) : (t.receive count).1.options = t.options := by
  unfold receive
  dsimp only
  split
  · exact options_tick _
  · rfl

theorem objection_receive {t : Transfer κ} (unopposed : t.options.Unopposed) (count : Nat) :
    (t.receive count).2 = none := by
  unfold receive
  dsimp only
  split
  · exact objection_tick unopposed
  · rfl

theorem objection_complete {t : Transfer κ} (unopposed : t.options.Unopposed) (interrupts : Nat) :
    (t.complete interrupts).2 = none := by
  have silent := objection_report unopposed
  unfold complete
  split
  · next u objection result => rw [result] at silent; cases silent
  · rfl

theorem outcome_conclude {t : Transfer κ} (unopposed : t.options.Unopposed) (interrupts : Nat) (store : Store)
    (visits : Array TransferState) : (t.conclude interrupts store visits).outcome = .ok store := by
  have silent := objection_complete unopposed interrupts
  unfold conclude
  split
  · next u objection result => rw [result] at silent; cases silent
  · rfl

theorem visits_conclude (t : Transfer κ) (interrupts : Nat) (store : Store) (visits : Array TransferState) :
    (t.conclude interrupts store visits).visits = visits := by
  unfold conclude
  split <;> rfl

theorem transfer_conclude (t : Transfer κ) (interrupts : Nat) (store : Store) (visits : Array TransferState) :
    (t.conclude interrupts store visits).transfer = (t.complete interrupts).1 := by
  unfold conclude
  split
  · next result => rw [result]
  · next result => rw [result]

/-! ## What a read does, by its outcome -/

def received (step : ReadStep) (count : Nat) (t : Transfer κ) : Transfer κ :=
  (((t.wait step.delays).onDisplay Display.pause).receive count).1

theorem unopposed_received {t : Transfer κ} (unopposed : t.options.Unopposed) (step : ReadStep)
    (count : Nat) : (t.received step count).options.Unopposed := by
  have kept := options_receive count ((t.wait step.delays).onDisplay Display.pause)
  rw [received, kept]
  exact unopposed

section Reading
variable {step : ReadStep} {rest : List ReadStep} {interrupts : Nat} {memory : Memory}
  {buffer : ByteBuffer} {visits : Array TransferState} {t : Transfer κ}

theorem readAll_of_interrupted {reason : Value} (failed : step.outcome = .error reason)
    (again : reason.isInterrupted = true) :
    t.readAll (step :: rest) interrupts memory buffer visits =
      (t.wait step.delays).readAll rest (interrupts + 1) memory buffer (visits.push t.state) := by
  simp only [readAll, failed, again, if_true]

theorem readAll_of_failed {reason : Value} (failed : step.outcome = .error reason)
    (final : reason.isInterrupted = false) :
    t.readAll (step :: rest) interrupts memory buffer visits =
      ⟨((t.wait step.delays).onDisplay Display.pause).logFailure reason, .error reason,
        visits.push t.state⟩ := by
  simp only [readAll, failed, final, Bool.false_eq_true, if_false]

theorem readAll_of_end {bytes : ByteArray} (came : step.outcome = .ok bytes)
    (nothing : bytes.isEmpty = true) :
    t.readAll (step :: rest) interrupts memory buffer visits =
      ((t.wait step.delays).onDisplay Display.pause).conclude interrupts (buffer.toStore memory)
        (visits.push t.state) := by
  simp only [readAll, came, nothing, if_true]

def stored (bytes : ByteArray) (buffer : ByteBuffer) (memory : Memory) : ByteBuffer × Memory :=
  let home := buffer.reserve (buffer.used + bytes.size) (memory.put block 0 bytes)
  ({ home.1 with used := buffer.used + bytes.size },
    home.2.put home.1.address buffer.used ((home.2.cells block).extract 0 bytes.size))

theorem append_put (bytes : ByteArray) (buffer : ByteBuffer) (memory : Memory) :
    buffer.append block bytes.size (memory.put block 0 bytes) = .ok (stored bytes buffer memory) :=
  ByteBuffer.append_eq ..

theorem readAll_of_bytes {bytes : ByteArray} (came : step.outcome = .ok bytes)
    (filled : bytes.isEmpty = false) (unopposed : t.options.Unopposed) :
    t.readAll (step :: rest) interrupts memory buffer visits =
      (t.received step bytes.size).readAll rest interrupts (stored bytes buffer memory).2
        (stored bytes buffer memory).1 (visits.push t.state) := by
  have arrived : ((t.wait step.delays).onDisplay Display.pause).options.Unopposed := unopposed
  have silent := objection_receive arrived bytes.size
  simp only [readAll, came, filled, append_put, Bool.false_eq_true, if_false, received]
  split
  · next u objection result => rw [result] at silent; cases silent
  · next u result => rw [result]

/-- The buffer has an array of its own, apart from the block that all reads fill. -/
structure Ready (buffer : ByteBuffer) (memory : Memory) : Prop where
  fits : buffer.Fits memory
  apart : buffer.address ≠ block
  filled : block < memory.next

omit [Clock κ] in
theorem ready_of_allocate (made : t.allocate = .ok (buffer, memory)) :
    Ready buffer memory ∧ buffer.bytes memory = .empty := by
  unfold allocate at made
  dsimp only at made
  split at made
  · cases made
  split at made
  · cases made
  unfold ByteBuffer.forLength? at made
  dsimp only at made
  split at made
  · cases made
  · cases made
    exact ⟨⟨ByteBuffer.fits_withHint _ blank, Nat.one_ne_zero, Nat.zero_lt_two⟩, ByteBuffer.bytes_withHint _ blank⟩

/-- The block changes with every read, and the buffer does not change with it. -/
theorem Ready.put (ready : Ready buffer memory) (bytes : ByteArray) :
    buffer.Fits (memory.put block 0 bytes) ∧ buffer.bytes (memory.put block 0 bytes) = buffer.bytes memory := by
  have same := Memory.cells_put_of_ne ready.apart 0 bytes memory
  refine ⟨⟨?_, ?_⟩, ?_⟩
  · rw [Memory.next_put]
    exact ready.fits.there
  · rw [same]
    exact ready.fits.used
  · rw [ByteBuffer.bytes, same, ByteBuffer.bytes]

theorem ready_stored (ready : Ready buffer memory) (bytes : ByteArray) :
    Ready (stored bytes buffer memory).1 (stored bytes buffer memory).2 ∧
      (stored bytes buffer memory).1.bytes (stored bytes buffer memory).2 = buffer.bytes memory ++ bytes := by
  obtain ⟨fits, kept⟩ := ready.put bytes
  have there : block < (memory.put block 0 bytes).next := by
    rw [Memory.next_put]
    exact ready.filled
  obtain ⟨later, after, appended, appends⟩ :=
    ByteBuffer.appends_append fits there (Memory.size_le_size_put ready.filled bytes)
  rw [append_put] at appended
  rw [Except.ok.inj appended]
  refine ⟨⟨appends.fits, ?_, there.trans_le appends.next⟩, ?_⟩
  · rcases appends.address with stays | moves
    · rw [stays]
      exact ready.apart
    · rw [moves]
      exact there.ne'
  · rw [appends.bytes, kept, Memory.extract_put ready.filled]

end Reading

/-! ## The start -/

def opened (options : TransferOptions) (announced? : Option Binary64) (clock : κ) (terminal : Terminal)
    (blockSize capacity : Nat) : Transfer κ where
  options := options
  blockSize := blockSize
  announced? := announced?
  display := { Display.start clock terminal with clock := (Clock.now clock).2 }
  total := 0
  window := .empty capacity
  startTime := (Clock.now clock).1
  lastTick? := none
  reports := #[]

theorem run_of_sound {options : TransferOptions} {blockSize capacity : Nat}
    (sized : options.chunkSize.positiveInteger? = some blockSize)
    (sampled : options.speedSamples.positiveInteger? = some capacity)
    (source : Source) (clock : κ) (terminal : Terminal) :
    run options source clock terminal =
      (opened options source.announced? clock terminal blockSize capacity).download source := by
  simp only [run, start, SpeedWindow.open?, sampled, sized, opened, Display.start]

/-- With other numbers a transfer does not come to begin, but its display has begun already. -/
theorem run_of_unsound {options : TransferOptions} (unsound : ¬ options.Sound) (source : Source) (clock : κ)
    (terminal : Terminal) :
    ∃ (failure : Failure) (later : κ), run options source clock terminal =
      { outcome := .error failure, display := { Display.start clock terminal with clock := later }, visits := #[],
        final? := none, reports := #[], closes := 0, closings := [] } := by
  cases sampled : options.speedSamples.positiveInteger? with
  | none =>
    refine ⟨.sampleCapacity options.speedSamples, clock, ?_⟩
    simp only [run, start, SpeedWindow.open?, sampled]
    rfl
  | some capacity =>
    cases sized : options.chunkSize.positiveInteger? with
    | none =>
      refine ⟨.chunkSize options.chunkSize, (Clock.now clock).2, ?_⟩
      simp only [run, start, SpeedWindow.open?, sampled, sized]
      rfl
    | some blockSize => exact absurd ⟨by simp [sized], by simp [sampled]⟩ unsound

theorem reading_of_allocated {t : Transfer κ} {buffer : ByteBuffer} {memory : Memory}
    (made : t.allocate = .ok (buffer, memory)) (source : Source) :
    (t.download source).outcome = (t.readAll (source.reads t.blockSize) 0 memory buffer #[]).outcome ∧
    (t.download source).visits = (t.readAll (source.reads t.blockSize) 0 memory buffer #[]).visits := by
  simp only [download, made, and_self]

theorem reading_of_refused {t : Transfer κ} {failure : Failure} (refused : t.allocate = .error failure)
    (source : Source) :
    (t.download source).outcome = .error failure ∧ (t.download source).visits = #[] := by
  simp only [download, refused, and_self]

end Transfer
end MeteredDownload
