import MeteredDownload.Proofs.Independence
import MeteredDownload.Proofs.Listening
import MeteredDownload.Proofs.Segments

/-!
# What a transfer gives back

A transfer does nothing with its display but what any owner of one does: it makes moves, waits and takes notes
(`Display.Later`).  So all that holds of a display whatever happens to it holds of the display of a transfer.
However a transfer ends, it closes its source once, after the last read, and its display before that; from then
on it writes no more, and it listens no longer than the terminal owes it a report.
-/
set_option autoImplicit false
namespace MeteredDownload

open Numeric Report Log

namespace Log

/-- The record brings neither a message nor a time of its own, and nothing but values. -/
structure Record.IsPlain (record : Record) : Prop where
  message : record.fields.lookup "message" = none
  timestamp : record.fields.lookup "timestamp" = none
  values : ∀ field ∈ record.fields, ∃ v, field.2 = .value v

theorem Datum.unwritableField?_of_values (enclosures : List Enclosure) {fields : List (String × Datum)}
    (values : ∀ field ∈ fields, ∃ v, field.2 = .value v) : unwritableField? enclosures fields = none := by
  induction fields with
  | nil => rfl
  | cons field rest ih =>
    obtain ⟨key, datum⟩ := field
    obtain ⟨v, same⟩ := values (key, datum) List.mem_cons_self
    have only : datum = .value v := same
    rw [unwritableField?, only, ih fun other member => values other (List.mem_cons_of_mem _ member)]
    rfl

namespace Record

theorem IsPlain.ofValues {level : Level} {message : String} {fields : List (String × Value)}
    (untold : (ofValues level message fields).fields.lookup "message" = none)
    (untimed : (ofValues level message fields).fields.lookup "timestamp" = none) :
    (ofValues level message fields).IsPlain := by
  refine ⟨untold, untimed, ?_⟩
  intro field member
  obtain ⟨given, _, rfl⟩ := List.mem_map.mp member
  exact ⟨given.2, rfl⟩

theorem givesText_of_lookup {r : Record} {key : String} (absent : r.fields.lookup key = none) :
    r.givesText key = true := by
  simp [givesText, given?, absent]

theorem IsPlain.unshown? {r : Record} (plain : r.IsPlain) : r.unshown? = none := by
  have values : ∀ field ∈ r.shownFields, ∃ v, field.2 = .value v := by
    intro field member
    unfold shownFields at member
    split at member
    · cases member
    · exact plain.values field (List.mem_filter.mp member).1
  have written : r.unwritable? = none := by
    rw [Record.unwritable?, Datum.unwritable?]
    exact Datum.unwritableField?_of_values _ values
  rw [Record.unshown?, written, givesText_of_lookup plain.timestamp]
  rfl

end Record
end Log

namespace Display

section Pause
variable {κ : Type} {others extra : Nat} {d : Display κ}

theorem Tracks.paused (tracks : Tracks others extra d) (pauses : Nat) :
    Tracks others extra { d with terminal := { d.terminal with pauses } } :=
  ⟨tracks.detachable, tracks.count, tracks.room, tracks.listening, tracks.listeners, tracks.broken,
    tracks.detached, tracks.failing, tracks.heard⟩

theorem Tracks.pause (tracks : Tracks others 0 d) : Tracks others 0 d.pause := (tracks.paused _).perform _

theorem Released.perform (released : Released d) (tracks : Tracks others 0 d) (acts : List TerminalAct) :
    Released (d.perform acts) := by
  induction acts generalizing d with
  | nil => exact released
  | cons act rest ih =>
    obtain ⟨kept, lets, _⟩ := tracks.act_spec act
    exact ih (lets released) kept

theorem Released.pause (released : Released d) (tracks : Tracks others 0 d) : Released d.pause := by
  have awaiting : Released { d with terminal := { d.terminal with pauses := d.terminal.pauses + 1 } } := released
  exact awaiting.perform (tracks.paused _) _

/-! ## A display that does not listen -/

/-- The display never has to stop listening, and so many others listen to its terminal. -/
structure Deaf (others : Nat) (d : Display κ) : Prop where
  listening : d.renderer.listening = false
  listeners : d.terminal.listeners = others

theorem Deaf.release (deaf : Deaf others d) : Deaf others d.release := by
  have same : d.release = d := by
    unfold Display.release
    simp [deaf.listening]
  rwa [same]

theorem Deaf.complete (deaf : Deaf others d) (failure? : Option Failure) : Deaf others (d.complete failure?) := by
  have noted : Deaf others (d.noted failure?) := ⟨deaf.listening, deaf.listeners⟩
  cases failure? with
  | none =>
    rw [complete_none]
    exact noted.release
  | some failure =>
    have logged : Deaf others ((d.noted failure).log (.debug "Status write failed" [("error", .error failure)])) :=
      ⟨noted.listening, noted.listeners⟩
    rw [complete_some]
    exact logged.release

theorem Deaf.act (deaf : Deaf others d) (act : TerminalAct) : Deaf others (d.act act) := by
  cases act with
  | alarm failure => exact ⟨deaf.listening, deaf.listeners⟩
  | report i =>
    simp only [Display.act]
    split
    · exact deaf
    · have fewer : Deaf others { d with due := d.due.eraseIdx i } := ⟨deaf.listening, deaf.listeners⟩
      exact fewer.complete _

theorem Deaf.perform (deaf : Deaf others d) (acts : List TerminalAct) : Deaf others (d.perform acts) := by
  induction acts generalizing d with
  | nil => exact deaf
  | cons act rest ih => exact ih (deaf.act act)

theorem Deaf.answered (deaf : Deaf others d) (failure? : Option Failure) (completion : Completion) :
    Deaf others (d.answered failure? completion) := by
  cases completion with
  | never => exact deaf
  | atOnce =>
    have completed := deaf.complete failure?
    cases failure? with
    | none => exact completed
    | some failure => exact ⟨completed.listening, completed.listeners⟩
  | later => exact ⟨deaf.listening, deaf.listeners⟩

theorem Deaf.send [Clock κ] (deaf : Deaf others d) (text : String) : Deaf others (d.send text) := by
  by_cases stopped : d.HasStopped
  · rwa [send_of_stopped stopped]
  · have working := working_of_not_hasStopped stopped
    have passed : ∀ mark, Deaf others (d.passed text mark) := fun _ => ⟨deaf.listening, deaf.listeners⟩
    cases fate : d.terminal.nextFate with
    | refused reason =>
      have under := (passed .refused).perform (d.terminal.behaviour.during d.terminal.written.size)
      rw [send_of_refused working fate]
      exact ⟨under.listening, under.listeners⟩
    | accepted failure? completion =>
      obtain ⟨mark, _, same⟩ := send_of_accepted working fate text
      rw [same]
      exact ((passed mark).answered failure? completion).perform _

theorem Deaf.move [Clock κ] (deaf : Deaf others d) (move : Move) : Deaf others (d.move move) := by
  rcases move_cases d move with ⟨_, e, text, width?, rfl | rfl, same⟩ | ⟨_, same⟩ | ⟨deed, _, same⟩
  · rw [same]
    exact ⟨deaf.listening, deaf.listeners⟩
  · have sent := deaf.send text
    rw [same]
    exact ⟨sent.listening, sent.listeners⟩
  · have shut : Deaf others { d with renderer := { d.renderer with closed := true } } :=
      ⟨deaf.listening, deaf.listeners⟩
    rw [same]
    exact shut.release
  · rw [same]
    exact deaf.act deed

end Pause

/-! ## What a display can come to -/

variable {κ : Type} [Clock κ]

inductive Later (d : Display κ) : Display κ → Prop
  | now : Later d d
  | clock {e : Display κ} (later : Later d e) (clock : κ) : Later d { e with clock }
  | log {e : Display κ} (later : Later d e) (record : Record) : Later d (e.log record)
  | move {e : Display κ} (later : Later d e) (move : Move) : Later d (e.move move)
  | pause {e : Display κ} (later : Later d e) : Later d e.pause

section Later
variable {others : Nat} {d e f : Display κ}

theorem Later.trans (first : d.Later e) (second : e.Later f) : d.Later f := by
  induction second with
  | now => exact first
  | clock _ clock ih => exact ih.clock clock
  | log _ record ih => exact ih.log record
  | move _ move ih => exact ih.move move
  | pause _ ih => exact ih.pause

theorem Later.perform (later : d.Later e) (acts : List TerminalAct) : d.Later (e.perform acts) := by
  induction acts generalizing e with
  | nil => exact later
  | cons act rest ih => exact ih (later.move (.act act))

theorem later_after (d : Display κ) (moves : List Move) : d.Later (d.after moves) := by
  induction moves using List.reverseRecOn with
  | nil => exact .now
  | append_singleton moves move ih =>
    rw [after_append]
    exact ih.move move

theorem Later.tracks (later : d.Later e) (tracks : Tracks others 0 d) (released : Released d) :
    Tracks others 0 e ∧ Released e := by
  induction later with
  | now => exact ⟨tracks, released⟩
  | clock _ clock ih =>
    obtain ⟨kept, lets⟩ := ih
    exact ⟨⟨kept.detachable, kept.count, kept.room, kept.listening, kept.listeners, kept.broken, kept.detached,
      kept.failing, kept.heard⟩, lets⟩
  | log _ record ih => exact ⟨ih.1.log record, ih.2⟩
  | move _ move ih => exact ⟨ih.1.move move, ih.2.move ih.1 move⟩
  | pause _ ih => exact ⟨ih.1.pause, ih.2.pause ih.1⟩

theorem Later.deaf (later : d.Later e) (deaf : Deaf others d) : Deaf others e := by
  induction later with
  | now => exact deaf
  | clock _ clock ih => exact ⟨ih.listening, ih.listeners⟩
  | log _ record ih => exact ⟨ih.listening, ih.listeners⟩
  | move _ move ih => exact ih.move move
  | pause _ ih =>
    have awaiting : ∀ {e : Display κ}, Deaf others e →
        Deaf others { e with terminal := { e.terminal with pauses := e.terminal.pauses + 1 } } :=
      fun deaf => ⟨deaf.listening, deaf.listeners⟩
    exact (awaiting ih).perform _

theorem Later.closed (later : d.Later e) (closed : d.renderer.closed = true) : e.renderer.closed = true := by
  induction later with
  | now => exact closed
  | clock _ clock ih => exact ih
  | log _ record ih => exact ih
  | move _ move ih => exact (closed_move _ move).mpr (.inl ih)
  | pause _ ih => exact (pause_kept _).closed.trans ih

/-- Once it is closed and its terminal is calm, a display is not among those who listen, unless there is no way
to stop. -/
theorem listeners_of_calm {terminal : Terminal} {clock : κ} (later : (Display.start clock terminal).Later e)
    (calm : terminal.Calm)
    (detachable : terminal.behaviour.attachable = true → terminal.behaviour.detachable = true)
    (closed : e.renderer.closed = true) (settled : e.terminal.Calm) : e.terminal.listeners = terminal.listeners := by
  cases attachable : terminal.behaviour.attachable with
  | false =>
    have deaf : Deaf terminal.listeners (Display.start clock terminal) := by
      constructor <;> simp [Display.start, attachable, Renderer.fresh]
    exact (later.deaf deaf).listeners
  | true =>
    have start := tracks_start_of_calm clock calm attachable (detachable attachable)
    obtain ⟨tracks, released⟩ := later.tracks start fun shut => Bool.noConfusion shut
    have count := tracks.count
    have balance := settled.settled
    have gone : e.renderer.attached = false := by
      cases attached : e.renderer.attached with
      | false => rfl
      | true =>
        have unbroken := (tracks.broken attached).trans settled.whole
        rw [← attached, released closed unbroken (by omega)]
    rw [tracks.listeners, gone]
    rfl

theorem listeners_of_open {terminal : Terminal} {clock : κ} (later : (Display.start clock terminal).Later e)
    (calm : terminal.Calm) (attachable : terminal.behaviour.attachable = true)
    (detachable : terminal.behaviour.detachable = true) (going : e.renderer.closed = false) :
    e.terminal.listeners = terminal.listeners + 1 := by
  obtain ⟨tracks, _⟩ := later.tracks (tracks_start_of_calm clock calm attachable detachable) nofun
  rw [tracks.listeners, tracks.attached_of_open going]
  rfl

end Later

/-- What a display can come to if it takes no notes but plain ones, apart from those that it makes of its terminal. -/
inductive Plainly (d : Display κ) : Display κ → Prop
  | now : Plainly d d
  | clock {e : Display κ} (before : Plainly d e) (clock : κ) : Plainly d { e with clock }
  | log {e : Display κ} (before : Plainly d e) {record : Record} (plain : record.IsPlain) : Plainly d (e.log record)
  | move {e : Display κ} (before : Plainly d e) (move : Move) : Plainly d (e.move move)
  | pause {e : Display κ} (before : Plainly d e) : Plainly d e.pause

section Plainly
variable {d e f : Display κ}

theorem Plainly.later (plainly : d.Plainly e) : d.Later e := by
  induction plainly with
  | now => exact .now
  | clock _ clock ih => exact ih.clock clock
  | log _ _ ih => exact ih.log _
  | move _ move ih => exact ih.move move
  | pause _ ih => exact ih.pause

theorem Plainly.trans (first : d.Plainly e) (second : e.Plainly f) : d.Plainly f := by
  induction second with
  | now => exact first
  | clock _ clock ih => exact ih.clock clock
  | log _ plain ih => exact ih.log plain
  | move _ move ih => exact ih.move move
  | pause _ ih => exact ih.pause

theorem Plainly.draw (plainly : d.Plainly e) (line : String) : d.Plainly (e.draw line) :=
  (plainly.move .erase).move (.put line)

theorem Plainly.rewind (plainly : d.Plainly e) : d.Plainly e.rewind := plainly.move .rewind

theorem Plainly.close (plainly : d.Plainly e) : d.Plainly e.close := plainly.move .close

theorem Plainly.finish (plainly : d.Plainly e) : d.Plainly e.finish := (plainly.move .newline).close

end Plainly
end Display

namespace Transfer
variable {κ : Type} [Clock κ]

theorem plainly_report (t : Transfer κ) : t.display.Plainly t.report.1.display := by
  rw [report_eq_told, display_told]
  exact (Display.Plainly.now.clock _).draw _

theorem plainly_tick (t : Transfer κ) : t.display.Plainly t.tick.1.display := by
  have reported := plainly_report { t with window := t.window.commit }
  unfold tick
  split
  · next u objection result =>
    rw [result] at reported
    exact reported
  · next u result =>
    rw [result] at reported
    exact reported.rewind.clock _

theorem plainly_receive (count : Nat) (t : Transfer κ) : t.display.Plainly (t.receive count).1.display := by
  have counted : t.display.Plainly (t.counted count).display := Display.Plainly.now.clock _
  rw [receive_eq]
  split
  · exact counted.trans (plainly_tick _)
  · exact counted

theorem plainly_complete (interrupts : Nat) (t : Transfer κ) :
    t.display.Plainly (t.complete interrupts).1.display := by
  have reported := plainly_report t
  unfold complete
  split
  · next u objection result =>
    rw [result] at reported
    exact reported
  · next u result =>
    rw [result] at reported
    exact reported.finish.log (.ofValues rfl rfl)

theorem plainly_awaited (step : ReadStep) (t : Transfer κ) : t.display.Plainly (t.awaited step).display :=
  (Display.Plainly.now.clock _).pause

theorem plainly_after (step : ReadStep) (t : Transfer κ) : t.display.Plainly (t.after step).display := by
  unfold after
  split
  · exact Display.Plainly.now.clock _
  · exact (plainly_awaited step t).trans (plainly_receive ..)

theorem plainly_afterAll (steps : List ReadStep) (t : Transfer κ) : t.display.Plainly (t.afterAll steps).display := by
  induction steps using List.reverseRecOn with
  | nil => exact .now
  | append_singleton steps step ih =>
    rw [afterAll_concat]
    exact ih.trans (plainly_after step _)

theorem plainly_ends {t : Transfer κ} {rest : List ReadStep} {reading : Reading κ} (ends : t.Ends rest reading) :
    t.display.Plainly reading.transfer.display := by
  cases ends with
  | spent =>
    rw [transfer_conclude]
    have paused : t.display.Plainly (t.onDisplay Display.pause).display := Display.Plainly.now.pause
    exact paused.trans (plainly_complete ..)
  | @whole step =>
    rw [transfer_conclude]
    exact (plainly_awaited step t).trans (plainly_complete ..)
  | @failed step => exact (plainly_awaited step t).log (.ofValues rfl rfl)
  | @opposed step => exact plainly_after step t

theorem plainly_reading (source : Source) (t : Transfer κ) :
    t.display.Plainly (t.reading source).transfer.display := by
  rcases t.reading_course source with ⟨failure, refused⟩ | ⟨made, rest, course⟩
  · rw [refused]
    exact .now
  · exact (plainly_afterAll made t).trans (plainly_ends course.ends)

theorem plainly_closeSource (closing : Closing) (t : Transfer κ) :
    t.display.Plainly (closeSource closing t).1.display := by
  cases closing with
  | absent => exact .now
  | works => exact .now
  | fails reason => exact Display.Plainly.now.log (.ofValues rfl rfl)

theorem plainly_download (source : Source) (t : Transfer κ) : t.display.Plainly (t.download source).display :=
  (plainly_reading source t).close.trans
    (plainly_closeSource source.closing ((t.reading source).transfer.onDisplay Display.close))

theorem closed_download (source : Source) (t : Transfer κ) :
    (t.download source).display.renderer.closed = true := by
  have shut := plainly_closeSource source.closing ((t.reading source).transfer.onDisplay Display.close)
  exact shut.later.closed (Display.closed_close _)

theorem closes_download {source : Source} (present : source.closing ≠ .absent) (t : Transfer κ) :
    (t.download source).closes = 1 := by
  cases closing : source.closing with
  | absent => exact absurd closing present
  | works => simp [download, closing, closeSource]
  | fails reason => simp [download, closing, closeSource]

theorem plainly_run (options : TransferOptions) (source : Source) (clock : κ) (terminal : Terminal) :
    (Display.start clock terminal).Plainly (run options source clock terminal).display := by
  by_cases sound : options.Sound
  · obtain ⟨blockSize, sized⟩ := Option.isSome_iff_exists.mp sound.sized
    obtain ⟨capacity, sampled⟩ := Option.isSome_iff_exists.mp sound.sampled
    have opens : (Display.start clock terminal).Plainly
        (opened options source.announced? clock terminal blockSize capacity).display :=
      Display.Plainly.now.clock _
    rw [run_of_sound sized sampled]
    exact opens.trans (plainly_download source _)
  · obtain ⟨failure, later, same⟩ := run_of_unsound sound source clock terminal
    rw [same]
    exact Display.Plainly.now.clock later

theorem later_run (options : TransferOptions) (source : Source) (clock : κ) (terminal : Terminal) :
    (Display.start clock terminal).Later (run options source clock terminal).display :=
  (plainly_run options source clock terminal).later

end Transfer

structure TransferResult.Releases {κ : Type} [Clock κ] (closing : Closing) (terminal : Terminal)
    (result : TransferResult κ) : Prop where
  absent : closing = .absent → result.closings = []
  /-- Any other is closed once: behind all reads, and behind all texts. -/
  closings : closing ≠ .absent →
    result.closings = [⟨result.visits.size, result.display.terminal.written.size⟩]
  closes : result.closes = result.closings.length
  written : ∀ moves, (result.display.after moves).terminal.written = result.display.terminal.written
  /-- Nobody listens on behalf of the transfer when no report is due, if no failure was told of. -/
  listeners : terminal.Calm →
    (terminal.behaviour.attachable = true → terminal.behaviour.detachable = true) →
    ∀ moves, (result.display.after moves).terminal.Calm →
      (result.display.after moves).terminal.listeners = terminal.listeners

namespace Transfer
variable {κ : Type} [Clock κ]

/-- Whatever a transfer comes to, and whatever comes of closing its source, all is released once, and the outcome
is what it would be if the source were closed without a failure. -/
theorem run_releases (options : TransferOptions) (source : Source) (clock : κ) (terminal : Terminal)
    (blockSize capacity : Nat) (sized : options.chunkSize.positiveInteger? = some blockSize)
    (sampled : options.speedSamples.positiveInteger? = some capacity) :
    (run options source clock terminal).Releases source.closing terminal ∧
      ∀ closing, (run options { source with closing } clock terminal).outcome =
        (run options source clock terminal).outcome := by
  have opens : ∀ source : Source, run options source clock terminal =
      (opened options source.announced? clock terminal blockSize capacity).download source :=
    fun source => run_of_sound sized sampled source clock terminal
  let begun := opened options source.announced? clock terminal blockSize capacity
  have closed : (begun.download source).display.renderer.closed = true := closed_download source begun
  have later := later_run options source clock terminal
  rw [opens] at later ⊢
  refine ⟨⟨?_, ?_, by simp [download], ?_, ?_⟩, ?_⟩
  · intro absent
    simp [download, absent, closeSource]
  · intro present
    cases closing : source.closing with
    | absent => exact absurd closing present
    | works => simp [download, closing, closeSource]
    | fails reason => simp [download, closing, closeSource, onDisplay, Display.log]
  · intro moves
    exact (Display.rests_after (.inr closed) moves).written
  · intro calm detachable moves settled
    have after := Display.later_after (begun.download source).display moves
    exact Display.listeners_of_calm (later.trans after) calm detachable (after.closed closed) settled
  · intro closing
    rw [opens]
    rfl

/-- The listener objects to the second line while four texts wait for their reports, and the source cannot be
closed: it is closed once all the same, the outcome is that of a source which can be closed, and the terminal is
let go of with the fourth report. -/
theorem run_releases_of_objection :
    let behaviour : TerminalBehaviour := { TerminalBehaviour.healthy with fate := fun _ => .accepted none .later }
    let terminal : Terminal := { Terminal.fresh behaviour with listeners := 2 }
    let options : TransferOptions :=
      ⟨4, 5, 0, some ⟨0, fun i => if i = 1 then some (.text "enough") else none⟩, fun _ => true⟩
    let reads : List ReadStep := [⟨[], .ok ⟨#[1, 2]⟩⟩, ⟨[], .ok ⟨#[3]⟩⟩, ⟨[], .ok ⟨#[4]⟩⟩]
    let source : Source := ⟨none, fun _ => reads, .fails (.text "busy")⟩
    let result := run options source () terminal
    let reports : List Display.Move := List.replicate 4 (.act (.report 0))
    result.outcome.isOk = false ∧
      (run options { source with closing := .works } () terminal).outcome = result.outcome ∧
      result.closings = [⟨2, 4⟩] ∧ result.display.terminal.listeners = 3 ∧
      (result.display.after reports).terminal.listeners = 2 := by
  intro behaviour terminal options reads source result reports
  obtain ⟨releases, same⟩ := run_releases options source () terminal 4 5 (by decide +kernel) (by decide +kernel)
  have failed : result.outcome.isOk = false := by decide +kernel
  have visits : result.visits.size = 2 := by decide +kernel
  have written : result.display.terminal.written.size = 4 := by decide +kernel
  have closings := releases.closings nofun
  have settled : (result.display.after reports).terminal.Calm := ⟨by decide +kernel, by decide +kernel⟩
  refine ⟨failed, same .works, ?_, by decide +kernel, ?_⟩
  · rw [closings, visits, written]
  · exact releases.listeners ⟨by decide +kernel, by decide +kernel⟩ (fun _ => rfl) reports settled

/-- A terminal at which one cannot stop listening is not let go of: the listener stays. -/
theorem not_releases_every_terminal :
    ¬ ∀ (options : TransferOptions) (source : Source) (clock : Unit) (terminal : Terminal)
        (blockSize capacity : Nat), options.chunkSize.positiveInteger? = some blockSize →
        options.speedSamples.positiveInteger? = some capacity → terminal.Calm →
        ∀ moves, ((run options source clock terminal).display.after moves).terminal.Calm →
          ((run options source clock terminal).display.after moves).terminal.listeners = terminal.listeners := by
  intro every
  have gone := every ⟨4, 5, 0, none, fun _ => true⟩ ⟨none, fun _ => [], .works⟩ ()
    (.fresh { TerminalBehaviour.healthy with detachable := false }) 4 5 (by decide +kernel) (by decide +kernel)
    ⟨by decide +kernel, by decide +kernel⟩ [] ⟨by decide +kernel, by decide +kernel⟩
  exact absurd gone (by decide +kernel)

end Transfer
end MeteredDownload
