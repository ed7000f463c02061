import MeteredDownload.Proofs.Beats

/-!
# The reports of a transfer

A report is made of what has arrived before it and of one reading of the clock (`Stage`), and `Timeline.stages` are
those of a whole transfer: one for each block that completes an interval, and one at the end of the body.  Whatever
keeps a record of the reports, be it a listener or a terminal (`Transfer.Records`), is left with the snapshots of just
these (`Transfer.Records.reading`).
-/
set_option autoImplicit false
namespace MeteredDownload

open Numeric Report

structure Stage where
  arrived : List Arrival
  time : Binary64
  deriving DecidableEq, Repr

namespace Stage

def total (stage : Stage) : Nat := (stage.arrived.map Arrival.size).sum

def snapshot (capacity : Nat) (announced? : Option Binary64) (start : Binary64) (stage : Stage) : Snapshot :=
  let window : SpeedWindow Nat := ⟨capacity, (Segments.cut stage.arrived).sums.reverse.take capacity, 0⟩
  .describe (.ofNat stage.total) announced? (window.speed announced?) ((stage.time - start) / 1000)

def Precedes (earlier later : Stage) : Prop := earlier.arrived <+: later.arrived

theorem Precedes.total_le {earlier later : Stage} (precedes : earlier.Precedes later) :
    earlier.total ≤ later.total := by
  obtain ⟨more, same⟩ := precedes
  rw [total, total, ← same, List.map_append, List.sum_append]
  exact Nat.le_add_right ..

end Stage

def Beat.stages (before : List Arrival) : List Beat → List Stage
  | [] => []
  | beat :: rest =>
    let arrived := before ++ [beat.arrived]
    (beat.redraw?.map fun redraw => (⟨arrived, redraw.shown⟩ : Stage)).toList ++ stages arrived rest

namespace Timeline

def arrived (timeline : Timeline) : List Arrival := timeline.beats.map Beat.arrived

def stages (timeline : Timeline) : List Stage :=
  Beat.stages [] timeline.beats ++ (timeline.last?.map fun time => (⟨timeline.arrived, time⟩ : Stage)).toList

end Timeline

/-! ## The order of the stages -/

section Stages
variable {before : List Arrival} {beats : List Beat}

theorem Beat.stages_append (before : List Arrival) (beats more : List Beat) :
    Beat.stages before (beats ++ more) =
      Beat.stages before beats ++ Beat.stages (before ++ beats.map Beat.arrived) more := by
  induction beats generalizing before with
  | nil => simp [Beat.stages]
  | cons beat rest ih => simp [Beat.stages, ih]

theorem Beat.length_stages (before : List Arrival) (beats : List Beat) :
    (Beat.stages before beats).length = beats.countP Beat.completes := by
  induction beats generalizing before with
  | nil => rfl
  | cons beat rest ih =>
    rw [Beat.stages, List.length_append, ih, List.countP_cons, Beat.completes]
    cases beat.redraw? <;> simp [Nat.add_comm]

theorem Beat.mem_stages {stage : Stage} (member : stage ∈ Beat.stages before beats) :
    before <+: stage.arrived ∧ stage.arrived <+: before ++ beats.map Beat.arrived := by
  induction beats generalizing before with
  | nil => cases member
  | cons beat rest ih =>
    rw [Beat.stages, List.mem_append] at member
    rcases member with first | later
    · obtain ⟨redraw, -, rfl⟩ : ∃ redraw, beat.redraw? = some redraw ∧
          (⟨before ++ [beat.arrived], redraw.shown⟩ : Stage) = stage := by simpa using first
      exact ⟨List.prefix_append .., by simp⟩
    · obtain ⟨least, most⟩ := ih later
      exact ⟨(List.prefix_append ..).trans least, by simpa using most⟩

theorem Beat.pairwise_stages (before : List Arrival) (beats : List Beat) :
    (Beat.stages before beats).Pairwise Stage.Precedes := by
  induction beats generalizing before with
  | nil => exact .nil
  | cons beat rest ih =>
    rw [Beat.stages, List.pairwise_append]
    refine ⟨?_, ih _, ?_⟩
    · cases beat.redraw? <;> simp
    · intro stage member later drawn
      obtain ⟨redraw, -, rfl⟩ : ∃ redraw, beat.redraw? = some redraw ∧
          (⟨before ++ [beat.arrived], redraw.shown⟩ : Stage) = stage := by simpa using member
      exact (Beat.mem_stages drawn).1

theorem Beat.times_stages (before : List Arrival) (beats : List Beat) :
    ((Beat.stages before beats).map Stage.time).Sublist (beats.flatMap Beat.readings) := by
  induction beats generalizing before with
  | nil => exact .slnil
  | cons beat rest ih =>
    rw [Beat.stages, List.map_append, List.flatMap_cons]
    refine List.Sublist.append ?_ (ih _)
    cases drawn : beat.redraw? <;> simp [Beat.readings, drawn, Redraw.readings]

theorem Timeline.pairwise_stages (timeline : Timeline) : timeline.stages.Pairwise Stage.Precedes := by
  rw [Timeline.stages, List.pairwise_append]
  refine ⟨Beat.pairwise_stages .., ?_, ?_⟩
  · cases timeline.last? <;> simp
  · intro stage member last ended
    obtain ⟨time, -, rfl⟩ : ∃ time, timeline.last? = some time ∧ (⟨timeline.arrived, time⟩ : Stage) = last := by
      simpa using ended
    exact (Beat.mem_stages member).2

theorem Timeline.times_stages (timeline : Timeline) :
    (timeline.start :: timeline.stages.map Stage.time).Sublist timeline.readings := by
  refine List.Sublist.cons_cons _ ?_
  rw [Timeline.stages, List.map_append]
  refine (Beat.times_stages ..).append ?_
  cases timeline.last? <;> simp

theorem Timeline.length_stages (timeline : Timeline) :
    timeline.stages.length = timeline.arrived.countP Arrival.completes + timeline.last?.toList.length := by
  have ticks : timeline.arrived.countP Arrival.completes = timeline.beats.countP Beat.completes := by
    rw [Timeline.arrived, List.countP_map]
    rfl
  rw [Timeline.stages, List.length_append, Beat.length_stages, ticks]
  cases timeline.last? <;> rfl

end Stages

/-! ## Records of the reports -/

namespace Transfer
variable {κ : Type} [Clock κ]

def view (t : Transfer κ) : Snapshot := t.now.2.snapshotAt t.now.1

theorem arrived_timeline (source : Source) (t : Transfer κ) : (t.timeline source).arrived =
    t.arrivals ((source.reads t.blockSize).take (t.reading source).visits.size) :=
  arrived_beats ..

section Steps
variable {t : Transfer κ} {capacity : Nat} {made : List Arrival}

structure Continues (t u : Transfer κ) : Prop where
  options : u.options = t.options
  announced : u.announced? = t.announced?
  start : u.startTime = t.startTime

theorem after_continues (step : ReadStep) (t : Transfer κ) : t.Continues (t.after step) := by
  cases outcome : step.outcome with
  | error reason =>
    rw [after, outcome]
    exact ⟨rfl, rfl, rfl⟩
  | ok bytes =>
    rw [after, outcome]
    show t.Continues ((t.awaited step).receive bytes.size).1
    rw [receive_eq]
    split
    · obtain ⟨display, reports, lastTick?, same, -⟩ := ((t.awaited step).counted bytes.size).tick_fst
      rw [same]
      exact ⟨rfl, rfl, rfl⟩
    · exact ⟨rfl, rfl, rfl⟩

theorem afterAll_continues (made : List ReadStep) (t : Transfer κ) : t.Continues (t.afterAll made) := by
  induction made generalizing t with
  | nil => exact ⟨rfl, rfl, rfl⟩
  | cons step rest ih =>
    have first := t.after_continues step
    have later := ih (t.after step)
    exact ⟨later.options.trans first.options, later.announced.trans first.announced, later.start.trans first.start⟩

omit [Clock κ] in
theorem snapshotAt_eq (time : Binary64) (total : t.total = (made.map Arrival.size).sum)
    (samples : t.window.samples = (Segments.cut made).sums.reverse.take capacity) :
    t.snapshotAt time = Stage.snapshot capacity t.announced? t.startTime ⟨made, time⟩ := by
  have speed : t.window.speed t.announced? =
      (⟨capacity, (Segments.cut made).sums.reverse.take capacity, 0⟩ : SpeedWindow Nat).speed t.announced? := by
    rw [← samples]
    rfl
  rw [snapshotAt, speed, total]
  rfl

theorem view_eq (counts : t.state.Counts capacity made) :
    t.view = Stage.snapshot capacity t.announced? t.startTime ⟨made, t.now.1⟩ :=
  snapshotAt_eq t.now.1 counts.total counts.samples

theorem view_after_block (room : 0 < capacity) (holds : t.window.capacity = capacity)
    (counts : t.state.Counts capacity made) (step : ReadStep) {bytes : ByteArray} (filled : bytes.isEmpty = false) :
    ((t.awaited step).counted bytes.size).committed.view = Stage.snapshot capacity t.announced? t.startTime
      ⟨made ++ [⟨bytes.size, true⟩], ((t.awaited step).counted bytes.size).redraw.shown⟩ := by
  have ticked := (counts_tick (t := t.awaited step) room holds (counts_awaited step counts)
    (size_pos_of_isEmpty_eq_false filled)).1
  obtain ⟨display, reports, lastTick?, moved, -⟩ := ((t.awaited step).counted bytes.size).tick_fst
  rw [moved] at ticked
  exact snapshotAt_eq ((t.awaited step).counted bytes.size).now.1 ticked.total ticked.samples

end Steps

/-- A record of the snapshots of a transfer, and what is left of it when the reading has ended: it grows with every
report, and with nothing else. -/
structure Records (Kept : List Snapshot → Transfer κ → Prop) (Left : List Snapshot → Reading κ → Prop) : Prop where
  waits {snapshots t} (delays : List Binary64) : Kept snapshots t → Kept snapshots (t.wait delays)
  pauses {snapshots t} : Kept snapshots t → Kept snapshots (t.onDisplay Display.pause)
  counts {snapshots t} (count : Nat) : Kept snapshots t → Kept snapshots (t.counted count)
  ticks {snapshots t} : Kept snapshots t → t.tick.2 = none → Kept (snapshots ++ [t.committed.view]) t.tick.1
  opposed {snapshots t} {objection : Value} (visits : Array TransferState) : Kept snapshots t →
    t.tick.2 = some objection → Left (snapshots ++ [t.committed.view]) ⟨t.tick.1, .error objection, visits⟩
  concludes {snapshots t} (interrupts : Nat) (store : Store) (visits : Array TransferState) :
    Kept snapshots t → Left (snapshots ++ [t.view]) (t.conclude interrupts store visits)
  fails {snapshots t} (reason : Value) (visits : Array TransferState) : Kept snapshots t →
    Left snapshots ⟨t.logFailure reason, .error reason, visits⟩
  refuses {snapshots t} (reason : Value) : Kept snapshots t → Left snapshots ⟨t, .error reason, #[]⟩

section Records
variable {Kept : List Snapshot → Transfer κ → Prop} {Left : List Snapshot → Reading κ → Prop} {t : Transfer κ}
  {capacity : Nat} {made : List Arrival} {snapshots : List Snapshot}

theorem Records.awaited (records : Records Kept Left) (kept : Kept snapshots t) (step : ReadStep) :
    Kept snapshots (t.awaited step) :=
  records.pauses (records.waits step.delays kept)

theorem Records.after (records : Records Kept Left) (kept : Kept snapshots t) (room : 0 < capacity)
    (holds : t.window.capacity = capacity) (counts : t.state.Counts capacity made) {step : ReadStep}
    (on : step.goesOn = true) (unopposed : t.objection? step = none) :
    Kept (snapshots ++ (Beat.stages made (t.beat step)).map (Stage.snapshot capacity t.announced? t.startTime))
      (t.after step) := by
  cases outcome : step.outcome with
  | error reason =>
    rw [Transfer.after, beat, outcome]
    simpa [Beat.stages] using records.waits step.delays kept
  | ok bytes =>
    have filled := ReadStep.isEmpty_of_goesOn on outcome
    have counted := records.counts bytes.size (records.awaited kept step)
    rcases beat_of_bytes outcome filled t with ⟨-, struck, same, -⟩ | ⟨-, struck, same, answer⟩
    · rw [struck, same]
      simpa [Beat.stages] using counted
    · have ticked := records.ticks counted (answer ▸ unopposed)
      rw [view_after_block room holds counts step filled] at ticked
      rw [struck, same]
      exact ticked

theorem Records.goes (records : Records Kept Left) (kept : Kept [] t) (room : 0 < capacity)
    (holds : t.window.capacity = capacity) (fresh : t.state.Counts capacity []) {reads : List ReadStep}
    (goes : t.Goes reads) :
    Kept ((Beat.stages [] (t.beats reads)).map (Stage.snapshot capacity t.announced? t.startTime))
      (t.afterAll reads) := by
  -- The counts are kept beside the record, since each report shows them.
  refine (goes.keeps (fun reads u => (u.state.Counts capacity (t.arrivals reads) ∧ u.window.capacity = capacity) ∧
    Kept ((Beat.stages [] (t.beats reads)).map (Stage.snapshot capacity t.announced? t.startTime)) u)
    ⟨⟨fresh, holds⟩, kept⟩ ?_).2
  rintro reads step ⟨⟨counts, holding⟩, before⟩ on unopposed
  have same := t.afterAll_continues reads
  have added := records.after before room holding counts on unopposed
  refine ⟨?_, ?_⟩
  · rw [arrivals_append, arrivals, arrivals, List.append_nil]
    exact counts_after room holding counts on
  · rw [same.announced, same.start] at added
    rw [beats_append, beats, beats, List.append_nil, Beat.stages_append, arrived_beats, List.map_append,
      List.nil_append]
    exact added

theorem Records.ends (records : Records Kept Left) (kept : Kept snapshots t) (room : 0 < capacity)
    (holds : t.window.capacity = capacity) (counts : t.state.Counts capacity made) {rest : List ReadStep}
    {reading : Reading κ} (ends : t.Ends rest reading) :
    Left (snapshots ++ (Beat.stages made (t.beats (rest.take 1)) ++ ((t.ending? rest).map fun time =>
      (⟨made ++ t.arrivals (rest.take 1), time⟩ : Stage)).toList).map
        (Stage.snapshot capacity t.announced? t.startTime)) reading := by
  -- The four ways in which the reading of a script can end; two of them make a last report, and one objects to one.
  cases ends with
  | spent interrupts store visits =>
    have concluded := records.concludes interrupts store visits (records.pauses kept)
    have view : (t.onDisplay Display.pause).view = Stage.snapshot capacity t.announced? t.startTime
        ⟨made, (t.onDisplay Display.pause).now.1⟩ :=
      view_eq (counts_onDisplay Display.pause counts)
    rw [view] at concluded
    simpa [beats, arrivals, Beat.stages, ending?] using concluded
  | @whole step rest interrupts store visits last =>
    have stop := beat_of_stop (ReadStep.goesOn_of_isEnd last) t
    have nothing := arrival_of_stop (ReadStep.goesOn_of_isEnd last) t
    have concluded := records.concludes interrupts store visits (records.awaited kept step)
    have view : (t.awaited step).view = Stage.snapshot capacity t.announced? t.startTime
        ⟨made, (t.awaited step).now.1⟩ :=
      view_eq (counts_awaited step counts)
    rw [view] at concluded
    simpa [beats, arrivals, Beat.stages, stop, nothing, ending?, last] using concluded
  | @failed step reason rest visits failed final =>
    have stop := beat_of_stop (ReadStep.goesOn_of_failed failed final) t
    have more : step.isEnd = false := by simp [ReadStep.isEnd, failed]
    have noted := records.fails reason visits (records.awaited kept step)
    simpa [beats, Beat.stages, stop, ending?, more] using noted
  | @opposed step objection rest visits on opposed =>
    have more : step.isEnd = false := ReadStep.isEnd_of_goesOn on
    cases outcome : step.outcome with
    | error reason => simp [objection?, outcome] at opposed
    | ok bytes =>
      have filled := ReadStep.isEmpty_of_goesOn on outcome
      have counted := records.counts bytes.size (records.awaited kept step)
      rcases beat_of_bytes outcome filled t with ⟨-, -, -, answer⟩ | ⟨-, struck, same, answer⟩
      · rw [answer] at opposed
        cases opposed
      · have ticked := records.opposed visits counted (answer ▸ opposed)
        rw [view_after_block room holds counts step filled] at ticked
        rw [same]
        simpa [beats, struck, ending?, more, Beat.stages, Beat.arrived, Beat.completes] using ticked

/-- A record of the reports is left with the snapshots of all stages, in their order. -/
theorem Records.reading (records : Records Kept Left) (kept : Kept [] t) (room : 0 < capacity)
    (holds : t.window.capacity = capacity) (fresh : t.state.Counts capacity []) (source : Source) :
    Left ((t.timeline source).stages.map (Stage.snapshot capacity t.announced? t.startTime)) (t.reading source) := by
  rcases t.reading_course source with ⟨failure, refused⟩ | ⟨reads, rest, course⟩
  · rw [timeline_of_refused refused, refused]
    exact records.refuses _ kept
  · obtain ⟨counts, holding⟩ := counts_goes room holds fresh course.goes
    have same := t.afterAll_continues reads
    have before := records.goes kept room holds fresh course.goes
    have last := records.ends before room holding counts course.ends
    rw [same.announced, same.start, ← List.map_append, ← List.append_assoc] at last
    rw [timeline_of_course course]
    simpa [Timeline.stages, Timeline.arrived, Beat.stages_append, arrived_beats] using last

end Records

/-! ## What a listener is told -/

section Reports
variable {t : Transfer κ} {listener : Listener}

theorem reports_report (seated : t.options.listener? = some listener) :
    t.report.1.reports = t.reports.push t.view := by
  rw [report_eq_told, told]
  have same : (t.now.2.onDisplay (·.draw (t.now.2.snapshotAt t.now.1).line)).options.listener? = some listener :=
    seated
  rw [same]
  rfl

theorem reports_tick (seated : t.options.listener? = some listener) :
    t.tick.1.reports = t.reports.push t.committed.view := by
  have reported : t.committed.report.1.reports = _ := reports_report seated
  rcases t.tick_cases with ⟨objection, opposed⟩ | redrawn
  · rw [opposed]
    exact reported
  · rw [redrawn]
    exact reported

theorem reports_conclude (seated : t.options.listener? = some listener) (interrupts : Nat) (store : Store)
    (visits : Array TransferState) :
    (t.conclude interrupts store visits).transfer.reports = t.reports.push t.view := by
  have reported := reports_report seated
  rw [transfer_conclude, complete]
  cases answer : t.report with
  | mk u objection? =>
    rw [answer] at reported
    cases objection? <;> exact reported

theorem records_reports (listener : Listener) :
    Records (κ := κ) (fun snapshots t => t.options.listener? = some listener ∧ t.reports.toList = snapshots)
      (fun snapshots reading => reading.transfer.reports.toList = snapshots) where
  waits _ kept := kept
  pauses kept := kept
  counts _ kept := kept
  ticks kept _ := ⟨(congrArg TransferOptions.listener? (options_tick _)).trans kept.1, by
    rw [reports_tick kept.1, Array.toList_push, kept.2]⟩
  opposed _ kept _ := by
    show (tick _).1.reports.toList = _
    rw [reports_tick kept.1, Array.toList_push, kept.2]
  concludes _ _ _ kept := by rw [reports_conclude kept.1, Array.toList_push, kept.2]
  fails _ _ kept := kept.2
  refuses _ kept := kept.2

end Reports
end Transfer
end MeteredDownload
