import MeteredDownload.Proofs.Independence
import MeteredDownload.Proofs.Segments

/-!
# Interrupted reads are not to be seen

Reads that are interrupted at once can be put into a script anywhere (`ReadStep.Padded`).  A transfer stands
behind such a read where it stood before, so from the next read on two transfers, one with and one without them,
do the same; they differ in the number of reads, and in the number of interruptions that the last note tells.
-/
set_option autoImplicit false
namespace MeteredDownload

open Numeric Log

/-- The items in the places that are not marked; those behind the last mark are not. -/
def unmarked {α : Type} : List Bool → List α → List α
  | true :: marks, _ :: items => unmarked marks items
  | false :: marks, item :: items => item :: unmarked marks items
  | [], items => items
  | _ :: _, [] => []

theorem unmarked_nil {α : Type} (marks : List Bool) : unmarked marks ([] : List α) = [] := by
  rcases marks with _ | ⟨_ | _, _⟩ <;> rfl

namespace ReadStep
variable {κ : Type} [Clock κ]

def IsIdle (origin : κ) (step : ReadStep) : Prop :=
  (∃ reason, step.outcome = .error reason ∧ reason.isInterrupted = true) ∧
  ∀ clock, Clock.Reached origin clock →
    step.delays.foldl (fun clock delay => Clock.wait delay clock) clock = clock

/-- The second script is the first with idle reads put in, in the places that are marked. -/
inductive Padded (origin : κ) : List ReadStep → List ReadStep → List Bool → Prop
  | nil : Padded origin [] [] []
  | kept {script longer : List ReadStep} {marks : List Bool} (step : ReadStep)
      (rest : Padded origin script longer marks) :
      Padded origin (step :: script) (step :: longer) (false :: marks)
  | added {script longer : List ReadStep} {marks : List Bool} {step : ReadStep} (idle : step.IsIdle origin)
      (rest : Padded origin script longer marks) : Padded origin script (step :: longer) (true :: marks)

end ReadStep

/-! ## The clock of a display -/

namespace Display
variable {κ : Type} [Clock κ] {origin : κ} {d : Display κ}

theorem reached_send (reached : Clock.Reached origin d.clock) (chunk : String) :
    Clock.Reached origin (d.send chunk).clock := by
  rw [(send_kept chunk d).clock]
  dsimp only
  unfold clockAfter
  split
  · exact reached
  · exact reached.wait _

theorem reached_draw (reached : Clock.Reached origin d.clock) (line : String) :
    Clock.Reached origin (d.draw line).clock := by
  have erased : Clock.Reached origin d.erase.clock := by
    unfold erase
    split
    · exact reached
    · exact reached_send reached _
  exact reached_send erased line

theorem reached_pause (reached : Clock.Reached origin d.clock) : Clock.Reached origin d.pause.clock := by
  rw [(pause_kept d).clock]
  exact reached

end Display

namespace Transfer
variable {κ : Type} [Clock κ] {origin : κ} {t : Transfer κ}

theorem reached_report (reached : Clock.Reached origin t.display.clock) :
    Clock.Reached origin t.report.1.display.clock := by
  rw [report_eq_told, display_told]
  exact Display.reached_draw reached.now _

theorem reached_tick (reached : Clock.Reached origin t.display.clock) :
    Clock.Reached origin t.tick.1.display.clock := by
  have reported := reached_report (t := { t with window := t.window.commit }) reached
  unfold tick
  split
  · next result =>
    rw [result] at reported
    exact reported
  · next result =>
    rw [result] at reported
    exact (Display.reached_send reported "\r").now

theorem reached_receive (reached : Clock.Reached origin t.display.clock) (count : Nat) :
    Clock.Reached origin (t.receive count).1.display.clock := by
  rw [receive_eq]
  split
  · exact reached_tick reached.now
  · exact reached.now

/-! ## Two transfers -/

theorem wait_of_isIdle {step : ReadStep} (idle : step.IsIdle origin)
    (reached : Clock.Reached origin t.display.clock) : t.wait step.delays = t := by
  unfold wait
  rw [idle.2 t.display.clock reached]

end Transfer

def Log.Record.uncounted (record : Record) : Record :=
  if record.level = .debug then
    { record with fields := record.fields.filter fun field => field.1 ≠ "interrupts" }
  else record

namespace Display
variable {κ : Type}

def uncounted (d : Display κ) : Display κ := { d with records := d.records.map Record.uncounted }

theorem uncounted_log (record : Record) (d : Display κ) :
    (d.log record).uncounted = d.uncounted.log record.uncounted := by
  simp [uncounted, log]

theorem uncounted_release (d : Display κ) : d.release.uncounted = d.uncounted.release := by
  by_cases ready : (d.renderer.listening && d.renderer.closed && !d.renderer.broken &&
      decide (d.renderer.outstanding ≤ 0)) = true
  · have here : d.release = _ := if_pos ready
    have there : d.uncounted.release = _ := if_pos ready
    rw [here, there]
    by_cases detachable : d.terminal.behaviour.detachable = true
    · exact (congrArg uncounted (if_pos detachable)).trans (if_pos detachable).symm
    · exact (congrArg uncounted (if_neg detachable)).trans (if_neg detachable).symm
  · exact (congrArg uncounted (if_neg ready)).trans (if_neg ready).symm

theorem uncounted_close (d : Display κ) : d.close.uncounted = d.uncounted.close :=
  uncounted_release { d with renderer := { d.renderer with closed := true } }

end Display

namespace Transfer
variable {κ : Type}

def uncounted (t : Transfer κ) : Transfer κ := t.onDisplay Display.uncounted

theorem uncounted_close {t u : Transfer κ} (alike : u.uncounted = t.uncounted) :
    (u.onDisplay Display.close).uncounted = (t.onDisplay Display.close).uncounted := by
  have shut : ∀ v : Transfer κ, (v.onDisplay Display.close).uncounted = v.uncounted.onDisplay Display.close := by
    intro v
    exact congrArg (fun display => { v with display }) (Display.uncounted_close v.display)
  rw [shut, shut, alike]

theorem uncounted_closeSource {t u : Transfer κ} (alike : u.uncounted = t.uncounted) (closing : Closing) :
    (closeSource closing u).1.uncounted = (closeSource closing t).1.uncounted ∧
      (closeSource closing u).2 = (closeSource closing t).2 := by
  cases closing with
  | absent => exact ⟨alike, rfl⟩
  | works => exact ⟨alike, rfl⟩
  | fails reason =>
    have noted : ∀ v : Transfer κ, (closeSource (.fails reason) v).1.uncounted =
        v.uncounted.onDisplay (·.log (Record.debug "Closing body failed" [("error", reason)]).uncounted) := by
      intro v
      exact congrArg (fun display => { v with display }) (Display.uncounted_log _ v.display)
    rw [noted, noted, alike]
    exact ⟨rfl, rfl⟩

/-- The second reading hides what the first one lacks: reads in the places that are marked, behind those that
were begun before. -/
structure Reading.Hides (marks : List Bool) (begun later : Array TransferState) (r s : Reading κ) : Prop where
  outcome : s.outcome = r.outcome
  transfer : s.transfer.uncounted = r.transfer.uncounted
  visits : ∃ all, s.visits.toList = later.toList ++ all ∧ r.visits.toList = begun.toList ++ unmarked marks all

namespace Reading.Hides
variable {marks : List Bool} {begun later : Array TransferState} {r s : Reading κ} {state : TransferState}

theorem kept (hides : Reading.Hides marks (begun.push state) (later.push state) r s) :
    Reading.Hides (false :: marks) begun later r s := by
  obtain ⟨all, there, here⟩ := hides.visits
  refine ⟨hides.outcome, hides.transfer, state :: all, ?_, ?_⟩
  · simpa using there
  · simpa [unmarked] using here

theorem added (hides : Reading.Hides marks begun (later.push state) r s) :
    Reading.Hides (true :: marks) begun later r s := by
  obtain ⟨all, there, here⟩ := hides.visits
  refine ⟨hides.outcome, hides.transfer, state :: all, ?_, here⟩
  simpa using there

end Reading.Hides

theorem hides_of_last {r s : Reading κ} {begun later : Array TransferState} (outcome : s.outcome = r.outcome)
    (transfer : s.transfer.uncounted = r.transfer.uncounted) (here : r.visits = begun) (there : s.visits = later)
    (marks : List Bool) : Reading.Hides marks begun later r s := by
  refine ⟨outcome, transfer, [], ?_, ?_⟩
  · simp [there]
  · simp [here, unmarked_nil]

variable [Clock κ]

theorem complete_alike (first second : Nat) (t : Transfer κ) :
    (t.complete second).2 = (t.complete first).2 ∧
      (t.complete second).1.uncounted = (t.complete first).1.uncounted := by
  unfold complete
  split
  · exact ⟨rfl, rfl⟩
  · refine ⟨rfl, ?_⟩
    simp only [uncounted, onDisplay, Display.uncounted_log]
    rfl

theorem conclude_hides (first second : Nat) (store : Store) (begun later : Array TransferState)
    (marks : List Bool) (t : Transfer κ) :
    Reading.Hides marks begun later (t.conclude first store begun) (t.conclude second store later) := by
  obtain ⟨answer, transfer⟩ := t.complete_alike first second
  refine hides_of_last ?_ ?_ (visits_conclude ..) (visits_conclude ..) marks
  · revert answer
    unfold conclude
    rcases t.complete first with ⟨_, _ | _⟩ <;> rcases t.complete second with ⟨_, _ | _⟩
    all_goals simp
  · rw [transfer_conclude, transfer_conclude]
    exact transfer

theorem readAll_hides {origin : κ} {script longer : List ReadStep} {marks : List Bool}
    (padded : ReadStep.Padded origin script longer marks) (first second : Nat) (memory : Memory)
    (buffer : ByteBuffer) (begun later : Array TransferState) {t : Transfer κ}
    (reached : Clock.Reached origin t.display.clock) :
    Reading.Hides marks begun later (t.readAll script first memory buffer begun)
      (t.readAll longer second memory buffer later) := by
  -- An idle read adds one read to the longer script and changes nothing else; any other is made by both.
  induction padded generalizing first second memory buffer begun later t with
  | nil =>
    obtain ⟨outcome, transfer, all, there, here⟩ :=
      conclude_hides first second (buffer.toStore memory) (begun.push t.state) (later.push t.state) []
        (t.onDisplay Display.pause)
    refine ⟨outcome, transfer, t.state :: all, ?_, ?_⟩
    · simpa [readAll] using there
    · simpa [readAll, unmarked] using here
  | @added _ _ _ step idle _ ih =>
    obtain ⟨⟨reason, failed, again⟩, _⟩ := id idle
    rw [readAll_of_interrupted failed again, wait_of_isIdle idle reached]
    exact (ih first (second + 1) memory buffer begun (later.push t.state) reached).added
  | kept step _ ih =>
    have waited : Clock.Reached origin (t.wait step.delays).display.clock := reached_foldl step.delays reached
    have paused : Clock.Reached origin (t.awaited step).display.clock := Display.reached_pause waited
    apply Reading.Hides.kept
    unfold readAll
    dsimp only
    split
    · split
      · exact ih _ _ _ _ _ _ waited
      · apply hides_of_last <;> rfl
    · next bytes _ =>
      split
      · exact conclude_hides ..
      · have received := reached_receive paused bytes.size
        rw [append_put]
        dsimp only
        split
        · apply hides_of_last <;> rfl
        · next u result =>
          rw [awaited.eq_def, result] at received
          exact ih _ _ _ _ _ _ received

theorem reading_hides {origin : κ} {source : Source} {reads : Nat → List ReadStep} {marks : List Bool}
    {t : Transfer κ} (padded : ReadStep.Padded origin (source.reads t.blockSize) (reads t.blockSize) marks)
    (reached : Clock.Reached origin t.display.clock) :
    Reading.Hides marks #[] #[] (t.reading source) (t.reading { source with reads }) := by
  unfold reading
  cases t.allocate with
  -- Where there is no room for the bytes, neither script is read.
  | error failure => apply hides_of_last <;> rfl
  | ok room => exact readAll_hides padded 0 0 room.2 room.1 #[] #[] reached

end Transfer

/-- The second result is that of a transfer that was interrupted more often: the reads in the places that are
marked are its alone.  Of what both did, nothing but the number of interruptions that a note tells differs. -/
structure TransferResult.Hides {κ : Type} (marks : List Bool) (r s : TransferResult κ) : Prop where
  outcome : s.outcome = r.outcome
  visits : unmarked marks s.visits.toList = r.visits.toList
  final : s.final? = r.final?
  reports : s.reports = r.reports
  closes : s.closes = r.closes
  display : s.display.uncounted = r.display.uncounted

namespace Transfer
variable {κ : Type} [Clock κ]

theorem download_hides {origin : κ} {source : Source} {reads : Nat → List ReadStep} {marks : List Bool}
    {t : Transfer κ} (padded : ReadStep.Padded origin (source.reads t.blockSize) (reads t.blockSize) marks)
    (reached : Clock.Reached origin t.display.clock) :
    (t.download source).Hides marks (t.download { source with reads }) := by
  have hides := reading_hides padded reached
  obtain ⟨all, there, here⟩ := hides.visits
  obtain ⟨ended, closes⟩ := uncounted_closeSource (uncounted_close hides.transfer) source.closing
  refine ⟨hides.outcome, ?_, ?_, ?_, closes, ?_⟩
  · show unmarked marks (t.reading { source with reads }).visits.toList = (t.reading source).visits.toList
    rw [here, there]
    rfl
  · have state := congrArg Transfer.state ended
    exact congrArg some state
  · have reports := congrArg Transfer.reports ended
    exact reports
  · have display := congrArg Transfer.display ended
    exact display

theorem run_hides_of_unsound {options : TransferOptions} (unsound : ¬ options.Sound) (source : Source)
    (reads : Nat → List ReadStep) (clock : κ) (terminal : Terminal) (marks : List Bool) :
    (run options source clock terminal).Hides marks (run options { source with reads } clock terminal) := by
  have same : run options { source with reads } clock terminal = run options source clock terminal := by
    obtain ⟨failure, later, ended⟩ := run_of_unsound unsound source clock terminal
    unfold run at ended ⊢
    dsimp only
    revert ended
    rcases start options source.announced? clock terminal with ⟨display, other | t⟩
    · intro _
      rfl
    · intro ended
      cases congrArg TransferResult.final? ended
  obtain ⟨failure, later, ended⟩ := run_of_unsound unsound source clock terminal
  have unread : unmarked marks ([] : List TransferState) = [] := unmarked_nil marks
  rw [same, ended]
  exact ⟨rfl, unread, rfl, rfl, rfl, rfl⟩

/-- Reads that are interrupted at once, put into the script of a transfer anywhere, change nothing of it but the
number of its reads, and the number of interruptions that a note tells. -/
theorem run_hides_interruptions (options : TransferOptions) (source : Source) (reads : Nat → List ReadStep)
    (clock : κ) (terminal : Terminal) (marks : List Bool)
    (padded : ∀ blockSize, options.chunkSize.positiveInteger? = some blockSize →
      ReadStep.Padded clock (source.reads blockSize) (reads blockSize) marks) :
    (run options source clock terminal).Hides marks (run options { source with reads } clock terminal) := by
  by_cases sound : options.Sound
  · obtain ⟨blockSize, sized⟩ := Option.isSome_iff_exists.mp sound.sized
    obtain ⟨capacity, sampled⟩ := Option.isSome_iff_exists.mp sound.sampled
    rw [run_of_sound sized sampled, run_of_sound sized sampled]
    exact download_hides (padded blockSize sized) (.now .origin)
  · exact run_hides_of_unsound sound source reads clock terminal marks

/-- Interruptions before the first block, before the one that starts a redraw, and before the end: there are three
reads more, and the terminal, which refuses the second text, is given the same five texts. -/
theorem run_hides_interruptions_everywhere :
    let behaviour : TerminalBehaviour :=
      { TerminalBehaviour.healthy with
        fate := fun i => if i = 1 then .refused (.text "busy") else .accepted none .atOnce }
    let options : TransferOptions := ⟨4, 5, 300, some ⟨0, fun _ => none⟩, fun _ => true⟩
    let interruption : Value := .error (.raised .error "interrupted" none (.text "EINTR"))
    let source : Source := ⟨some 5, fun _ => [⟨[], .ok ⟨#[1, 2]⟩⟩, ⟨[500], .ok ⟨#[3]⟩⟩], .works⟩
    let reads : List ReadStep :=
      [⟨[], .error interruption⟩, ⟨[], .ok ⟨#[1, 2]⟩⟩, ⟨[.negativeZero], .error interruption⟩, ⟨[500], .ok ⟨#[3]⟩⟩,
        ⟨[], .error interruption⟩]
    let plain := run options source (⟨0, 100⟩ : Stopwatch) (.fresh behaviour)
    let interrupted := run options { source with reads := fun _ => reads } (⟨0, 100⟩ : Stopwatch) (.fresh behaviour)
    plain.Hides [true, false, true, false, true] interrupted ∧ plain.visits.size = 3 ∧
      interrupted.visits.size = 6 ∧ plain.display.terminal.written.size = 5 := by
  intro behaviour options interruption source reads plain interrupted
  have atOnce : ReadStep.IsIdle (⟨0, 100⟩ : Stopwatch) ⟨[], .error interruption⟩ :=
    ⟨⟨_, rfl, rfl⟩, fun _ _ => rfl⟩
  have timeless : ReadStep.IsIdle (⟨0, 100⟩ : Stopwatch) ⟨[.negativeZero], .error interruption⟩ := by
    refine ⟨⟨_, rfl, rfl⟩, ?_⟩
    intro clock _
    have still := Binary64.add_negativeZero clock.time
    show { clock with time := clock.time + .negativeZero } = clock
    rw [still]
  have hides := run_hides_interruptions options source (fun _ => reads) (⟨0, 100⟩ : Stopwatch) (.fresh behaviour)
    [true, false, true, false, true]
    fun _ _ => .added atOnce (.kept _ (.added timeless (.kept _ (.added atOnce .nil))))
  refine ⟨hides, ?_, ?_, ?_⟩
  · decide +kernel
  · decide +kernel
  · decide +kernel

end Transfer
end MeteredDownload
