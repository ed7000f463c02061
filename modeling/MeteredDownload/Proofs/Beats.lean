import MeteredDownload.Proofs.Independence
import MeteredDownload.Proofs.Segments

/-!
# The times that a transfer reads from its clock

A transfer reads its clock as it begins, when a block arrives, for each report, and once more after each redraw,
from which the next interval is measured.  `Timeline` lists these readings by what they were for: a beat for every
block, with the readings of its redraw if it completed an interval.  That there are no others is `log_run`: a clock
that keeps a list of its readings ends with just these.
-/
set_option autoImplicit false
namespace MeteredDownload

open Numeric Report

/-- A new line inside the loop: when it was reported, and from when on the next interval is measured.  An interval
whose report the listener objects to is not followed by another one. -/
structure Redraw where
  shown : Binary64
  reset? : Option Binary64
  deriving DecidableEq, Repr

def Redraw.readings (redraw : Redraw) : List Binary64 := redraw.shown :: redraw.reset?.toList

structure Beat where
  size : Nat
  arrival : Binary64
  redraw? : Option Redraw
  deriving DecidableEq, Repr

namespace Beat

def completes (beat : Beat) : Bool := beat.redraw?.isSome

def arrived (beat : Beat) : Arrival := ⟨beat.size, beat.completes⟩

def readings (beat : Beat) : List Binary64 := beat.arrival :: beat.redraw?.toList.flatMap Redraw.readings

/-- The tick clock starts with the first block, and anew with every redraw. -/
def clockAfter (clock? : Option Binary64) (beat : Beat) : Option Binary64 :=
  (beat.redraw?.bind Redraw.reset?).or (clock?.or (some beat.arrival))

def tickClock? (beats : List Beat) : Option Binary64 := beats.foldl clockAfter none

def Settled (beat : Beat) : Prop := ∀ redraw ∈ beat.redraw?, redraw.reset?.isSome = true

end Beat

/-- The readings of a transfer: the first, those of its blocks, and that of the last report if it came to one. -/
structure Timeline where
  start : Binary64
  beats : List Beat
  last? : Option Binary64
  deriving DecidableEq, Repr

def Timeline.readings (timeline : Timeline) : List Binary64 :=
  timeline.start :: (timeline.beats.flatMap Beat.readings ++ timeline.last?.toList)

namespace Transfer
variable {κ : Type} [Clock κ]

def committed (t : Transfer κ) : Transfer κ := { t with window := t.window.commit }

def redraw (t : Transfer κ) : Redraw := ⟨t.now.1, if t.tick.2.isNone then t.tick.1.lastTick? else none⟩

def beat (step : ReadStep) (t : Transfer κ) : List Beat :=
  match step.outcome with
  | .error _ => []
  | .ok bytes =>
    if bytes.isEmpty then []
    else
      let t := t.awaited step
      [⟨bytes.size, t.now.1, if t.isDue then some (t.counted bytes.size).redraw else none⟩]

def beats (t : Transfer κ) : List ReadStep → List Beat
  | [] => []
  | step :: rest => t.beat step ++ (t.after step).beats rest

def ending? (t : Transfer κ) : List ReadStep → Option Binary64
  | [] => some (t.onDisplay Display.pause).now.1
  | step :: _ => if step.isEnd then some (t.awaited step).now.1 else none

def timeline (source : Source) (t : Transfer κ) : Timeline :=
  let reads := source.reads t.blockSize
  let visits := (t.reading source).visits.size
  { start := t.startTime, beats := t.beats (reads.take visits),
    last? := match visits with
      | 0 => none
      | made + 1 => (t.afterAll (reads.take made)).ending? (reads.drop made) }

/-! ## Beats and arrivals -/

theorem beats_append (made rest : List ReadStep) (t : Transfer κ) :
    t.beats (made ++ rest) = t.beats made ++ (t.afterAll made).beats rest := by
  induction made generalizing t with
  | nil => rfl
  | cons first made ih => simp [beats, afterAll, ih]

theorem arrived_beat (step : ReadStep) (t : Transfer κ) : (t.beat step).map Beat.arrived = t.arrival step := by
  unfold beat arrival
  cases step.outcome with
  | error reason => rfl
  | ok bytes =>
    cases nothing : bytes.isEmpty with
    | true => simp only [nothing, if_true, List.map_nil]
    | false => cases due : (t.awaited step).isDue <;> simp [nothing, due, Beat.arrived, Beat.completes]

theorem arrived_beats (steps : List ReadStep) (t : Transfer κ) :
    (t.beats steps).map Beat.arrived = t.arrivals steps := by
  induction steps generalizing t with
  | nil => rfl
  | cons step rest ih => rw [beats, arrivals, List.map_append, arrived_beat, ih]

theorem beat_of_stop {step : ReadStep} (stop : step.goesOn = false) (t : Transfer κ) : t.beat step = [] := by
  rw [← List.map_eq_nil_iff (f := Beat.arrived), arrived_beat]
  exact arrival_of_stop stop t

theorem beat_of_bytes {step : ReadStep} {bytes : ByteArray} (came : step.outcome = .ok bytes)
    (filled : bytes.isEmpty = false) (t : Transfer κ) :
    let arrived := t.awaited step
    let counted := arrived.counted bytes.size
    (arrived.isDue = false ∧ t.beat step = [⟨bytes.size, arrived.now.1, none⟩] ∧ t.after step = counted ∧
      t.objection? step = none) ∨
    (arrived.isDue = true ∧ t.beat step = [⟨bytes.size, arrived.now.1, some counted.redraw⟩] ∧
      t.after step = counted.tick.1 ∧ t.objection? step = counted.tick.2) := by
  intro arrived counted
  have same : (t.after step, t.objection? step) = arrived.receive bytes.size := (receive_awaited came).symm
  rw [receive_eq] at same
  cases due : arrived.isDue with
  | false =>
    rw [due] at same
    exact .inl ⟨rfl, by simp [beat, came, filled, arrived, due], congrArg Prod.fst same, congrArg Prod.snd same⟩
  | true =>
    rw [due] at same
    exact .inr ⟨rfl, by simp [beat, came, filled, arrived, counted, due], congrArg Prod.fst same,
      congrArg Prod.snd same⟩

/-! ## What the tick clock is set to -/

theorem lastTick?_report (t : Transfer κ) : t.report.1.lastTick? = t.lastTick? := by
  obtain ⟨display, reports, same⟩ := t.report_fst
  rw [same]

theorem tick_cases (t : Transfer κ) :
    (∃ objection, t.tick = (t.committed.report.1, some objection)) ∨
    (let rewound := t.committed.report.1.onDisplay Display.rewind
     t.tick = ({ rewound.now.2 with lastTick? := some rewound.now.1 }, none)) := by
  unfold tick
  rw [← committed]
  cases t.committed.report with
  | mk u answer =>
    cases answer with
    | some objection => exact .inl ⟨objection, rfl⟩
    | none => exact .inr rfl

theorem lastTick?_tick (t : Transfer κ) : t.tick.1.lastTick? = t.redraw.reset?.or t.lastTick? := by
  rcases t.tick_cases with ⟨objection, opposed⟩ | redrawn
  · rw [redraw, opposed, lastTick?_report]
    rfl
  · rw [redraw, redrawn]
    rfl

theorem lastTick?_after {step : ReadStep} (on : step.goesOn = true) (t : Transfer κ) :
    (t.after step).lastTick? = (t.beat step).foldl Beat.clockAfter t.lastTick? := by
  cases outcome : step.outcome with
  | error reason =>
    simp only [after, beat, outcome]
    rfl
  | ok bytes =>
    have filled := ReadStep.isEmpty_of_goesOn on outcome
    have started : ((t.awaited step).counted bytes.size).lastTick? =
        t.lastTick?.or (some (t.awaited step).now.1) := by
      have kept : (t.awaited step).lastTick? = t.lastTick? := rfl
      rw [counted, kept]
      cases t.lastTick? <;> rfl
    rcases beat_of_bytes outcome filled t with ⟨-, struck, same, -⟩ | ⟨-, struck, same, -⟩
    · rw [struck, same, started]
      rfl
    · rw [struck, same, lastTick?_tick, started]
      rfl

theorem lastTick?_goes {t : Transfer κ} {made : List ReadStep} (goes : t.Goes made) :
    (t.afterAll made).lastTick? = (t.beats made).foldl Beat.clockAfter t.lastTick? := by
  refine goes.keeps (fun made u => u.lastTick? = (t.beats made).foldl Beat.clockAfter t.lastTick?) rfl ?_
  intro made step before on _
  rw [lastTick?_after on, before, beats_append, List.foldl_append, beats, beats, List.append_nil]

theorem settled_beat {t : Transfer κ} {step : ReadStep} (on : step.goesOn = true)
    (unopposed : t.objection? step = none) : ∀ b ∈ t.beat step, b.Settled := by
  cases outcome : step.outcome with
  | error reason => simp [beat, outcome]
  | ok bytes =>
    have filled := ReadStep.isEmpty_of_goesOn on outcome
    rcases beat_of_bytes outcome filled t with ⟨-, struck, -, -⟩ | ⟨-, struck, -, answer⟩
    · rw [struck]
      simp [Beat.Settled]
    · rw [answer] at unopposed
      rcases tick_cases ((t.awaited step).counted bytes.size) with ⟨objection, opposed⟩ | redrawn
      · rw [opposed] at unopposed
        cases unopposed
      · rw [struck]
        simp [Beat.Settled, redraw, redrawn]

theorem settled_goes {t : Transfer κ} {made : List ReadStep} (goes : t.Goes made) :
    ∀ b ∈ t.beats made, b.Settled := by
  refine goes.keeps (fun made _ => ∀ b ∈ t.beats made, b.Settled) (by simp [beats]) ?_
  intro made step before on unopposed
  rw [beats_append, beats, beats, List.append_nil]
  exact List.forall_mem_append.mpr ⟨before, settled_beat on unopposed⟩

/-! ## The timeline of a course -/

theorem timeline_of_refused {source : Source} {t : Transfer κ} {failure : Failure}
    (refused : t.reading source = ⟨t, .error failure, #[]⟩) : t.timeline source = ⟨t.startTime, [], none⟩ := by
  simp [timeline, refused, beats]

theorem timeline_of_course {source : Source} {t : Transfer κ} {made rest : List ReadStep}
    (course : t.Course (source.reads t.blockSize) #[] (t.reading source) made rest) :
    t.timeline source = ⟨t.startTime, t.beats made ++ (t.afterAll made).beats (rest.take 1),
      (t.afterAll made).ending? rest⟩ := by
  have visits : (t.reading source).visits.size = made.length + 1 := by
    rw [← Array.length_toList, course.visits]
    simp [stations]
  simp only [timeline, visits, course.parts, List.take_length_add_append, beats_append, List.take_left,
    List.drop_left]

end Transfer

/-! ## All readings -/

structure Clock.Logs {κ : Type} [Clock κ] (log : κ → List Binary64) : Prop where
  now : ∀ clock, log (Clock.now clock).2 = log clock ++ [(Clock.now clock).1]
  wait : ∀ delay clock, log (Clock.wait delay clock) = log clock

instance {κ : Type} [Clock κ] : Clock (κ × List Binary64) where
  now noted := ((Clock.now noted.1).1, (Clock.now noted.1).2, noted.2 ++ [(Clock.now noted.1).1])
  wait delay noted := (Clock.wait delay noted.1, noted.2)

theorem Clock.logs_snd {κ : Type} [Clock κ] : Clock.Logs (Prod.snd : κ × List Binary64 → List Binary64) :=
  ⟨fun _ => rfl, fun _ _ => rfl⟩

section Logs
variable {κ : Type} [Clock κ] {log : κ → List Binary64}

theorem Clock.Logs.send (logs : Clock.Logs log) (chunk : String) (d : Display κ) :
    log (d.send chunk).clock = log d.clock := by
  rw [(Display.send_kept chunk d).clock]
  show log d.clockAfter = _
  unfold Display.clockAfter
  split
  · rfl
  · exact logs.wait ..

theorem Clock.Logs.draw (logs : Clock.Logs log) (line : String) (d : Display κ) :
    log (d.draw line).clock = log d.clock := by
  have erased : log d.erase.clock = log d.clock := by
    unfold Display.erase
    split
    · rfl
    · exact logs.send ..
  rw [← erased]
  exact logs.send line d.erase

theorem Clock.Logs.finish (logs : Clock.Logs log) (d : Display κ) : log d.finish.clock = log d.clock := by
  have closed : d.finish.clock = (d.send "\n").clock := (Display.release_kept _).clock
  rw [closed]
  exact logs.send ..

namespace Transfer
variable {t : Transfer κ}

def logged (log : κ → List Binary64) (t : Transfer κ) : List Binary64 := log t.display.clock

theorem logged_awaited (logs : Clock.Logs log) (step : ReadStep) : (t.awaited step).logged log = t.logged log := by
  have waited : ∀ (delays : List Binary64) (clock : κ),
      log (delays.foldl (fun clock delay => Clock.wait delay clock) clock) = log clock := by
    intro delays
    induction delays with
    | nil => exact fun _ => rfl
    | cons delay rest ih => exact fun clock => (ih _).trans (logs.wait delay clock)
  show log ((t.wait step.delays).display.pause).clock = _
  rw [(Display.pause_kept _).clock]
  exact waited ..

theorem logged_report (logs : Clock.Logs log) : t.report.1.logged log = t.logged log ++ [t.now.1] := by
  show log t.report.1.display.clock = _
  rw [report_eq_told, display_told]
  exact (logs.draw ..).trans (logs.now _)

theorem logged_tick (logs : Clock.Logs log) : t.tick.1.logged log = t.logged log ++ t.redraw.readings := by
  have reported : t.committed.report.1.logged log = t.logged log ++ [t.now.1] := logged_report logs
  rcases t.tick_cases with ⟨objection, opposed⟩ | redrawn
  · rw [redraw, opposed]
    exact reported
  · have rewound := logs.send "\r" t.committed.report.1.display
    rw [redraw, redrawn, Redraw.readings]
    show log (Clock.now _).2 = _
    rw [logs.now]
    show log (Display.send _ _).clock ++ _ = _
    rw [rewound]
    show t.committed.report.1.logged log ++ _ = _
    rw [reported, List.append_assoc]
    rfl

theorem logged_after (logs : Clock.Logs log) {step : ReadStep} (on : step.goesOn = true) :
    (t.after step).logged log = t.logged log ++ (t.beat step).flatMap Beat.readings := by
  have awaited : (t.awaited step).logged log = t.logged log := logged_awaited logs step
  cases outcome : step.outcome with
  | error reason =>
    -- What the terminal does while a block is awaited takes no time.
    have same : (t.after step).logged log = (t.awaited step).logged log := by
      rw [after, outcome]
      exact congrArg log (Display.pause_kept _).clock.symm
    rw [same, awaited, beat, outcome]
    simp
  | ok bytes =>
    have filled := ReadStep.isEmpty_of_goesOn on outcome
    have counted : ((t.awaited step).counted bytes.size).logged log =
        t.logged log ++ [(t.awaited step).now.1] := by
      rw [← awaited]
      exact logs.now _
    rcases beat_of_bytes outcome filled t with ⟨-, struck, same, -⟩ | ⟨-, struck, same, -⟩
    · rw [struck, same, counted]
      rfl
    · rw [struck, same, logged_tick logs, counted]
      simp [Beat.readings]

theorem logged_goes (logs : Clock.Logs log) {made : List ReadStep} (goes : t.Goes made) :
    (t.afterAll made).logged log = t.logged log ++ (t.beats made).flatMap Beat.readings := by
  refine goes.keeps (fun made u => u.logged log = t.logged log ++ (t.beats made).flatMap Beat.readings)
    (by simp [beats]) ?_
  intro made step before on _
  rw [logged_after logs on, before, beats_append, beats, beats, List.append_nil, List.flatMap_append,
    List.append_assoc]

theorem logged_conclude (logs : Clock.Logs log) (interrupts : Nat) (store : Store)
    (visits : Array TransferState) :
    (t.conclude interrupts store visits).transfer.logged log = t.logged log ++ [t.now.1] := by
  have reported : t.report.1.logged log = t.logged log ++ [t.now.1] := logged_report logs
  rw [transfer_conclude, complete]
  cases answer : t.report with
  | mk u objection? =>
    rw [answer] at reported
    cases objection? with
    | some objection => exact reported
    | none => exact (logs.finish u.display).trans reported

theorem logged_ends (logs : Clock.Logs log) {rest : List ReadStep} {reading : Reading κ} (ends : t.Ends rest reading) :
    reading.transfer.logged log =
      t.logged log ++ ((t.beats (rest.take 1)).flatMap Beat.readings ++ (t.ending? rest).toList) := by
  cases ends with
  | spent =>
    have paused : (t.onDisplay Display.pause).logged log = t.logged log :=
      congrArg log (Display.pause_kept _).clock
    rw [logged_conclude logs, paused]
    rfl
  | @whole step rest _ _ _ last =>
    have stop := beat_of_stop (ReadStep.goesOn_of_isEnd last) t
    rw [logged_conclude logs, logged_awaited logs]
    simp [beats, stop, ending?, last]
  | @failed step reason rest _ failed final =>
    have stop := beat_of_stop (ReadStep.goesOn_of_failed failed final) t
    have more : step.isEnd = false := by simp [ReadStep.isEnd, failed]
    show (t.awaited step).logged log = _
    rw [logged_awaited logs]
    simp [beats, stop, ending?, more]
  | @opposed step objection rest _ on _ =>
    have more : step.isEnd = false := ReadStep.isEnd_of_goesOn on
    rw [logged_after logs on]
    simp [beats, ending?, more]

theorem logged_reading (logs : Clock.Logs log) (source : Source) :
    (t.reading source).transfer.logged log =
      t.logged log ++ ((t.timeline source).beats.flatMap Beat.readings ++ (t.timeline source).last?.toList) := by
  rcases t.reading_course source with ⟨failure, refused⟩ | ⟨made, rest, course⟩
  · rw [timeline_of_refused refused, refused]
    simp
  · rw [timeline_of_course course, logged_ends logs course.ends, logged_goes logs course.goes,
      List.flatMap_append, List.append_assoc, List.append_assoc]

theorem logged_download (log : κ → List Binary64) (source : Source) (t : Transfer κ) :
    log (t.download source).display.clock = (t.reading source).transfer.logged log := by
  have closed : ∀ u : Transfer κ, (u.onDisplay Display.close).logged log = u.logged log :=
    fun u => congrArg log (Display.release_kept _).clock
  have kept : ∀ u : Transfer κ, (closeSource source.closing u).1.logged log = u.logged log := by
    intro u
    cases source.closing <;> rfl
  exact (kept _).trans (closed (t.reading source).transfer)

/-- The clock of a transfer makes the readings of its timeline, in their order, and no others. -/
theorem log_run {options : TransferOptions} {blockSize capacity : Nat}
    (sized : options.chunkSize.positiveInteger? = some blockSize)
    (sampled : options.speedSamples.positiveInteger? = some capacity) (logs : Clock.Logs log) (source : Source)
    (clock : κ) (terminal : Terminal) :
    log (run options source clock terminal).display.clock =
      log clock ++ ((opened options source.announced? clock terminal blockSize capacity).timeline source).readings := by
  have begun : (opened options source.announced? clock terminal blockSize capacity).logged log =
      log clock ++ [(Clock.now clock).1] :=
    logs.now clock
  rw [run_of_sound sized sampled, logged_download log, logged_reading logs, begun, List.append_assoc]
  rfl

end Transfer
end Logs
end MeteredDownload
