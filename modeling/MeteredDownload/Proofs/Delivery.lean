import MeteredDownload.Proofs.Transfer

/-!
# What a transfer delivers

A transfer reads on after every read that gave bytes or was interrupted, and after no other
(`ReadStep.goesOn`).  Its result follows the reads alone (`TransferResult.Follows`): it makes them up to the
first after which it does not go on, and gives the bytes of all before that one, or the failure in which that
one ended.  Nothing that clock or terminal do is in the way of it.
-/
set_option autoImplicit false
namespace MeteredDownload

open Numeric Report

namespace ReadStep

def goesOn (step : ReadStep) : Bool :=
  match step.outcome with
  | .ok bytes => !bytes.isEmpty
  | .error reason => reason.isInterrupted

theorem goesOn_of_isEnd {step : ReadStep} (last : step.isEnd = true) : step.goesOn = false := by
  cases outcome : step.outcome with
  | error reason => simp [isEnd, outcome] at last
  | ok bytes => simpa [goesOn, isEnd, outcome] using last

theorem isEmpty_of_goesOn {step : ReadStep} {bytes : ByteArray} (on : step.goesOn = true)
    (outcome : step.outcome = .ok bytes) : bytes.isEmpty = false := by
  simpa [goesOn, outcome] using on

theorem isEnd_of_goesOn {step : ReadStep} (on : step.goesOn = true) : step.isEnd = false := by
  rw [← Bool.not_eq_true]
  intro last
  rw [goesOn_of_isEnd last] at on
  cases on

theorem goesOn_of_failed {step : ReadStep} {reason : Value} (failed : step.outcome = .error reason)
    (final : reason.isInterrupted = false) : step.goesOn = false := by
  simp [goesOn, failed, final]

def bytes (step : ReadStep) : ByteArray :=
  match step.outcome with
  | .ok bytes => bytes
  | .error _ => .empty

def failure? (step : ReadStep) : Option Value :=
  match step.outcome with
  | .ok _ => none
  | .error reason => some reason

def join : List ReadStep → ByteArray
  | [] => .empty
  | step :: rest => step.bytes ++ join rest

def ending (steps : List ReadStep) : Option Value :=
  (steps.find? fun step => !step.goesOn).bind failure?

theorem ending_cons_of_goesOn {step : ReadStep} (on : step.goesOn = true) (rest : List ReadStep) :
    ending (step :: rest) = ending rest := by
  simp [ending, on]

theorem ending_cons_of_stop {step : ReadStep} (stop : step.goesOn = false) (rest : List ReadStep) :
    ending (step :: rest) = step.failure? := by
  simp [ending, stop]

end ReadStep

def Delivered (before : ByteArray) (steps : List ReadStep) (outcome : Except Value Store) : Prop :=
  match ReadStep.ending steps with
  | none => ∃ store, outcome = .ok store ∧
      store.cells = before ++ ReadStep.join (steps.takeWhile ReadStep.goesOn)
  | some reason => outcome = .error reason

theorem delivered_nil {before : ByteArray} {store : Store} (same : store.cells = before) :
    Delivered before [] (.ok store) :=
  ⟨store, rfl, by simp [same, ReadStep.join]⟩

theorem delivered_cons_of_goesOn {step : ReadStep} (on : step.goesOn = true) (before : ByteArray)
    (rest : List ReadStep) (outcome : Except Value Store) :
    Delivered before (step :: rest) outcome ↔ Delivered (before ++ step.bytes) rest outcome := by
  simp only [Delivered, ReadStep.ending_cons_of_goesOn on, List.takeWhile_cons_of_pos on, ReadStep.join,
    ByteArray.append_assoc]

theorem delivered_cons_of_end {step : ReadStep} (stop : step.goesOn = false) (whole : step.failure? = none)
    {before : ByteArray} {store : Store} (same : store.cells = before) (rest : List ReadStep) :
    Delivered before (step :: rest) (.ok store) := by
  simp [Delivered, ReadStep.ending_cons_of_stop stop, whole, stop, same, ReadStep.join]

theorem delivered_cons_of_failure {step : ReadStep} {reason : Value} (stop : step.goesOn = false)
    (failed : step.failure? = some reason) (before : ByteArray) (rest : List ReadStep) :
    Delivered before (step :: rest) (.error reason) := by
  simp [Delivered, ReadStep.ending_cons_of_stop stop, failed]

/-- The result follows the reads: none is made behind the first after which a transfer does not go on, and the
bytes of all before that one are given, unless it ended in a failure: then that very failure is. -/
structure TransferResult.Follows {κ : Type} (steps : List ReadStep) (result : TransferResult κ) : Prop where
  reads : result.visits.size = (steps.takeWhile ReadStep.goesOn).length + 1
  bytes : ReadStep.ending steps = none → ∃ store, result.outcome = .ok store ∧
    store.cells = ReadStep.join (steps.takeWhile ReadStep.goesOn)
  failure : ∀ reason, ReadStep.ending steps = some reason → result.outcome = .error reason

theorem TransferResult.Follows.visits_ne_empty {κ : Type} {steps : List ReadStep} {result : TransferResult κ}
    (follows : result.Follows steps) : result.visits ≠ #[] := by
  intro empty
  have reads := follows.reads
  rw [empty] at reads
  cases reads

theorem follows_of_delivered {κ : Type} {steps : List ReadStep} {result : TransferResult κ}
    (reads : result.visits.size = (steps.takeWhile ReadStep.goesOn).length + 1)
    (delivered : Delivered .empty steps result.outcome) : result.Follows steps := by
  refine ⟨reads, ?_, ?_⟩
  · intro whole
    simpa [Delivered, whole] using delivered
  · intro reason failed
    simpa [Delivered, failed] using delivered

namespace Transfer
variable {κ : Type} [Clock κ]

section Reading
variable {step : ReadStep} {t : Transfer κ} {buffer : ByteBuffer} {memory : Memory}

theorem readAll_of_goesOn (on : step.goesOn = true) (unopposed : t.options.Unopposed) (ready : Ready buffer memory)
    (rest : List ReadStep) (interrupts : Nat) (visits : Array TransferState) :
    ∃ (u : Transfer κ) (retries : Nat) (later : ByteBuffer) (after : Memory),
      u.options.Unopposed ∧ Ready later after ∧ later.bytes after = buffer.bytes memory ++ step.bytes ∧
      t.readAll (step :: rest) interrupts memory buffer visits =
        u.readAll rest retries after later (visits.push t.state) := by
  cases outcome : step.outcome with
  | error reason =>
    have again : reason.isInterrupted = true := by simpa [ReadStep.goesOn, outcome] using on
    refine ⟨t.wait step.delays, interrupts + 1, buffer, memory, unopposed, ready, ?_, ?_⟩
    · simp [ReadStep.bytes, outcome]
    · exact readAll_of_interrupted outcome again
  | ok bytes =>
    have filled := ReadStep.isEmpty_of_goesOn on outcome
    obtain ⟨still, gained⟩ := ready_stored ready bytes
    refine ⟨t.received step bytes.size, interrupts, _, _, unopposed_received unopposed step bytes.size,
      still, ?_, readAll_of_bytes outcome filled unopposed⟩
    rw [gained]
    simp [ReadStep.bytes, outcome]

theorem readAll_of_stop (stop : step.goesOn = false) (unopposed : t.options.Unopposed) (ready : Ready buffer memory)
    (rest : List ReadStep) (interrupts : Nat) (visits : Array TransferState) :
    (t.readAll (step :: rest) interrupts memory buffer visits).visits = visits.push t.state ∧
    Delivered (buffer.bytes memory) (step :: rest)
      (t.readAll (step :: rest) interrupts memory buffer visits).outcome := by
  cases outcome : step.outcome with
  | error reason =>
    have final : reason.isInterrupted = false := by simpa [ReadStep.goesOn, outcome] using stop
    rw [readAll_of_failed outcome final]
    exact ⟨rfl, delivered_cons_of_failure stop (by simp [ReadStep.failure?, outcome]) ..⟩
  | ok bytes =>
    have nothing : bytes.isEmpty = true := by simpa [ReadStep.goesOn, outcome] using stop
    have awaited : ((t.wait step.delays).onDisplay Display.pause).options.Unopposed := unopposed
    rw [readAll_of_end outcome nothing, visits_conclude, outcome_conclude awaited]
    refine ⟨rfl, ?_⟩
    exact delivered_cons_of_end stop (by simp [ReadStep.failure?, outcome]) (ByteBuffer.cells_toStore ready.fits) rest

end Reading

/-- One read is made for every one after which the transfer goes on, and one more.  The buffer gains the bytes
of all reads before the last, and the failure of the last is passed on. -/
theorem readAll_delivers (steps : List ReadStep) (interrupts : Nat) {buffer : ByteBuffer} {memory : Memory}
    (ready : Ready buffer memory) (visits : Array TransferState) {t : Transfer κ}
    (unopposed : t.options.Unopposed) :
    (t.readAll steps interrupts memory buffer visits).visits.size =
      visits.size + (steps.takeWhile ReadStep.goesOn).length + 1 ∧
    Delivered (buffer.bytes memory) steps (t.readAll steps interrupts memory buffer visits).outcome := by
  -- The buffer holds what came before these reads, and nothing else of the transfer bears on their bytes.
  induction steps generalizing interrupts buffer memory visits t with
  | nil =>
    have awaited : (t.onDisplay Display.pause).options.Unopposed := unopposed
    rw [readAll, visits_conclude, outcome_conclude awaited]
    exact ⟨by simp, delivered_nil (ByteBuffer.cells_toStore ready.fits)⟩
  | cons step rest ih =>
    by_cases on : step.goesOn = true
    · obtain ⟨u, retries, later, after, silent, still, gained, same⟩ :=
        readAll_of_goesOn on unopposed ready rest interrupts visits
      obtain ⟨reads, delivered⟩ := ih retries still (visits.push t.state) silent
      rw [same, delivered_cons_of_goesOn on, ← gained]
      refine ⟨?_, delivered⟩
      rw [reads, List.takeWhile_cons_of_pos on]
      simp only [Array.size_push, List.length_cons]
      omega
    · have stop : step.goesOn = false := by simpa using on
      obtain ⟨last, delivered⟩ := readAll_of_stop stop unopposed ready rest interrupts visits
      refine ⟨?_, delivered⟩
      rw [last, List.takeWhile_cons_of_neg on]
      simp

theorem download_follows {t : Transfer κ} {buffer : ByteBuffer} {memory : Memory}
    (made : t.allocate = .ok (buffer, memory)) (unopposed : t.options.Unopposed) (source : Source) :
    (t.download source).Follows (source.reads t.blockSize) := by
  obtain ⟨outcome, visits⟩ := reading_of_allocated made source
  obtain ⟨ready, nothing⟩ := ready_of_allocate made
  obtain ⟨reads, delivered⟩ := readAll_delivers (source.reads t.blockSize) 0 ready #[] unopposed
  rw [← outcome, nothing] at delivered
  apply follows_of_delivered _ delivered
  rw [visits, reads]
  simp

theorem run_follows_of_room (options : TransferOptions) {blockSize capacity : Nat}
    (sized : options.chunkSize.positiveInteger? = some blockSize)
    (sampled : options.speedSamples.positiveInteger? = some capacity) (unopposed : options.Unopposed)
    (room : options.HasRoom blockSize) (source : Source) (clock : κ) (terminal : Terminal)
    (announced : Source.AnnouncesLength source.announced?) :
    (run options source clock terminal).Follows (source.reads blockSize) := by
  rw [run_of_sound sized sampled]
  obtain ⟨buffer, memory, made⟩ := allocate_of_hasRoom
    (t := opened options source.announced? clock terminal blockSize capacity) sized announced room
  exact download_follows made unopposed source

/-- Where its machine gives it the block, a transfer follows its reads.  A block that is longer than any array can be,
or that the machine does not give, is a failure of its own, and then nothing is read. -/
theorem run_follows_reads (options : TransferOptions) (source : Source) (clock : κ) (terminal : Terminal)
    (blockSize capacity : Nat) (sized : options.chunkSize.positiveInteger? = some blockSize)
    (sampled : options.speedSamples.positiveInteger? = some capacity)
    (announced : Source.AnnouncesLength source.announced?) (unopposed : options.Unopposed) :
    (options.HasRoom blockSize → (run options source clock terminal).Follows (source.reads blockSize)) ∧
    (¬ options.HasRoom blockSize → (run options source clock terminal).visits = #[] ∧
      (run options source clock terminal).outcome =
        .error (if Binary64.maxExactInteger < blockSize then Failure.blockLength options.chunkSize
          else Failure.memory)) := by
  constructor
  · intro room
    exact run_follows_of_room options sized sampled unopposed room source clock terminal announced
  · intro none
    rw [run_of_sound sized sampled]
    have refused := allocate_of_no_room
      (t := opened options source.announced? clock terminal blockSize capacity) sized none
    obtain ⟨outcome, visits⟩ := reading_of_refused refused source
    refine ⟨visits, outcome.trans ?_⟩
    unfold refusal opened
    dsimp only
    split
    · rfl
    · rfl

/-- Too little is announced, every block starts a redraw, the terminal refuses the first text and fails with the
second, and one read is interrupted. -/
theorem run_follows_reads_of_bad_terminal :
    let failure : Failure := .raised .error "no terminal" none .undefined
    let behaviour : TerminalBehaviour :=
      { fate := fun i => if i = 0 then .refused failure else .accepted failure .later, delay := 7,
        attachable := true, detachable := false, during := fun i => [.report i] }
    let options : TransferOptions := ⟨4, 2, 0, some ⟨0, fun _ => none⟩, fun n => decide (n < 8)⟩
    let reads : List ReadStep :=
      [⟨[], .ok ⟨#[1, 2, 3]⟩⟩, ⟨[], .error (.error (.raised .error "" none (.text "EINTR")))⟩,
        ⟨[1000], .ok ⟨#[4]⟩⟩, ⟨[], .ok .empty⟩, ⟨[], .ok ⟨#[5]⟩⟩]
    let result := run options ⟨some 2, fun _ => reads, .works⟩ (⟨5, 1⟩ : Stopwatch) (.fresh behaviour)
    result.visits.size = 4 ∧ ∃ store, result.outcome = .ok store ∧ store.cells = ⟨#[1, 2, 3, 4]⟩ := by
  intro failure behaviour options reads result
  have announced : Source.AnnouncesLength (some 2) := by
    intro length announced
    cases announced
    exact ⟨by decide +kernel, by decide +kernel⟩
  have unopposed : options.Unopposed := by
    intro listener seated i
    cases seated
    rfl
  have follows := (run_follows_reads options ⟨some 2, fun _ => reads, .works⟩ (⟨5, 1⟩ : Stopwatch)
    (.fresh behaviour) 4 2 (by decide +kernel) (by decide +kernel) announced unopposed).1 ⟨by decide, rfl⟩
  exact ⟨follows.reads, follows.bytes rfl⟩

/-- A block of `2 ^ 53` bytes is a positive whole number of them, and still nothing is read, whatever the machine
gives. -/
theorem not_follows_reads_of_every_size :
    ¬ ∀ (options : TransferOptions) (source : Source) (clock : Unit) (terminal : Terminal)
        (blockSize capacity : Nat), options.chunkSize.positiveInteger? = some blockSize →
        options.speedSamples.positiveInteger? = some capacity →
        Source.AnnouncesLength source.announced? → options.Unopposed →
        (run options source clock terminal).Follows (source.reads blockSize) := by
  intro every
  have follows := every ⟨.ofNat (2 ^ 53), 5, 1000, none, fun _ => true⟩ ⟨none, fun _ => [], .absent⟩ () (.fresh .silent)
    (2 ^ 53) 5 (by decide +kernel) (by decide +kernel) nofun
    nofun
  have unread : (run ⟨.ofNat (2 ^ 53), 5, 1000, none, fun _ => true⟩ ⟨none, fun _ => [], .absent⟩ ()
      (.fresh .silent)).visits.size = 0 := by
    decide +kernel
  have read := follows.reads
  rw [unread] at read
  exact absurd read (by decide)

end Transfer
end MeteredDownload
