import MeteredDownload.Proofs.Backing
import MeteredDownload.Proofs.Redraw
import MeteredDownload.Proofs.Rounding

/-!
# Reports and lines

The terminal shows the lines of the snapshots that the listener is told of, and both are those of the stages of the
transfer.  The stages go forward with the blocks and with the clock, and the last one of a transfer that ends well has
all bytes that it hands out (`Transfer.run_reports_agree_with_lines`).
-/
set_option autoImplicit false
namespace MeteredDownload

open Numeric Report Text

namespace Transfer
variable {κ : Type} [Clock κ]

/-! ## The end of the body -/

section Resolved
variable {t : Transfer κ} {store : Store}

theorem Ends.resolved {rest : List ReadStep} {reading : Reading κ} (ends : t.Ends rest reading)
    (resolved : reading.outcome = .ok store) :
    (t.ending? rest).isSome = true ∧ t.beats (rest.take 1) = [] ∧ rest.takeWhile ReadStep.goesOn = [] := by
  cases ends with
  | spent => exact ⟨rfl, rfl, rfl⟩
  | @whole step rest _ _ _ last =>
    have stop := ReadStep.goesOn_of_isEnd last
    exact ⟨by simp [ending?, last], by simp [beats, beat_of_stop stop], by simp [stop]⟩
  | failed => cases resolved
  | opposed => cases resolved

theorem cells_of_resolved {source : Source} (resolved : (t.reading source).outcome = .ok store) :
    store.cells = ReadStep.join ((source.reads t.blockSize).takeWhile ReadStep.goesOn) := by
  unfold reading at resolved
  cases made : t.allocate with
  | error failure =>
    rw [made] at resolved
    cases resolved
  | ok room =>
    rw [made] at resolved
    obtain ⟨ready, nothing⟩ := ready_of_allocate made
    have cells := (readAll_fills _ _ ready (holds_of_allocate made) _ _ resolved).1
    rwa [nothing, ByteArray.empty_append] at cells

theorem timeline_of_resolved {source : Source} (resolved : (t.reading source).outcome = .ok store) :
    ∃ time, (t.timeline source).last? = some time ∧
      Stage.total ⟨(t.timeline source).arrived, time⟩ = store.cells.size := by
  have cells := cells_of_resolved resolved
  rcases t.reading_course source with ⟨failure, refused⟩ | ⟨made, rest, course⟩
  · rw [refused] at resolved
    cases resolved
  · obtain ⟨ending, nothing, stop⟩ := course.ends.resolved resolved
    have taken : (source.reads t.blockSize).takeWhile ReadStep.goesOn = made := by
      rw [course.parts, List.takeWhile_append_of_pos (fun _ member => course.goes.goesOn_of_mem member), stop,
        List.append_nil]
    obtain ⟨time, last⟩ := Option.isSome_iff_exists.mp ending
    rw [timeline_of_course course, nothing, List.append_nil]
    refine ⟨time, last, ?_⟩
    rw [Timeline.arrived, arrived_beats, Stage.total, sum_arrivals, cells, taken]

theorem counts_reading {capacity : Nat} (room : 0 < capacity) (holds : t.window.capacity = capacity)
    (fresh : t.state.Counts capacity []) (source : Source) :
    (t.reading source).transfer.state.Counts capacity (t.timeline source).arrived := by
  rcases t.reading_course source with ⟨failure, refused⟩ | ⟨made, rest, course⟩
  · rw [timeline_of_refused refused, refused]
    exact fresh
  · obtain ⟨counts, holding⟩ := counts_goes room holds fresh course.goes
    have last := counts_ends room holding counts course.ends
    rw [timeline_of_course course, Timeline.arrived, List.map_append, arrived_beats, arrived_beats]
    exact last

end Resolved
end Transfer

/-! ## Lines and the chunks between them -/

namespace Text

def Blanks (chunks : List String) : Prop :=
  ∀ before chunk after, chunks = before ++ chunk :: after → ¬ Printable chunk.toList →
    chunk = "\r" ∨ chunk = "\n" ∨
      ∃ last, (before.filter fun chunk => Printable chunk.toList).getLast? = some last ∧
        chunk = spaces last.length ++ "\r"

section Blanks
variable {chunks lines : List String} {chunk line : String}

theorem Blanks.concat (blanks : Blanks chunks)
    (next : Printable chunk.toList ∨ chunk = "\r" ∨ chunk = "\n" ∨
      ∃ last, (chunks.filter fun chunk => Printable chunk.toList).getLast? = some last ∧
        chunk = spaces last.length ++ "\r") : Blanks (chunks ++ [chunk]) := by
  intro before c after same other
  rcases List.eq_nil_or_concat after with rfl | ⟨more, last, rfl⟩
  · obtain ⟨rfl, one⟩ := List.append_inj' same rfl
    obtain rfl := List.singleton_inj.mp one
    exact next.resolve_left other
  · rw [List.concat_eq_append, ← List.cons_append, ← List.append_assoc] at same
    exact blanks before c more (List.append_inj' same rfl).1 other

theorem Blanks.drawing (blanks : Blanks chunks) {last? : Option String}
    (before : (chunks.filter fun chunk => Printable chunk.toList).getLast? = last?)
    (printable : Printable line.toList) : Blanks (chunks ++ Text.drawing last? line) := by
  cases last? with
  | none => exact blanks.concat (.inl printable)
  | some last =>
    have blanked := blanks.concat (.inr (.inr (.inr ⟨last, before, rfl⟩)))
    have drawn := blanked.concat (.inl printable)
    simpa [Text.drawing] using drawn

theorem blanks_redraws (printable : ∀ line ∈ lines, Printable line.toList) : Blanks (redraws none lines) := by
  induction lines using List.reverseRecOn with
  | nil => simp [Blanks, redraws]
  | append_singleton lines line ih =>
    obtain ⟨earlier, last⟩ := List.forall_mem_append.mp printable
    have drawn := (ih earlier).drawing (congrArg List.getLast? (filter_redraws earlier)) (last line List.mem_cons_self)
    rw [redraws_concat, Option.or_none]
    exact drawn.concat (.inr (.inl rfl))

theorem blanks_ahead (earlier : ∀ line ∈ lines, Printable line.toList) (last : Printable line.toList) :
    Blanks (redraws none lines ++ drawing lines.getLast? line) :=
  (blanks_redraws earlier).drawing (congrArg List.getLast? (filter_redraws earlier)) last

theorem filter_of_ended {ε α : Type} {outcome : Except ε α} (ended : Ended outcome lines chunks)
    (printable : ∀ line ∈ lines, Printable line.toList) :
    chunks.filter (fun chunk => Printable chunk.toList) = lines ∧ Blanks chunks := by
  cases ended with
  | resolved result lines line =>
    obtain ⟨earlier, last⟩ := List.forall_mem_append.mp printable
    have shown := last line List.mem_cons_self
    have newline : ¬ Printable "\n".toList := by decide
    refine ⟨?_, (blanks_ahead earlier shown).concat (.inr (.inr (.inl rfl)))⟩
    rw [List.filter_append, filter_of_drawn (.ahead lines line) printable,
      List.filter_cons_of_neg (by simpa using newline)]
    simp
  | rejected reason drawn =>
    refine ⟨filter_of_drawn drawn printable, ?_⟩
    cases drawn with
    | rewound => exact blanks_redraws printable
    | ahead lines line =>
      obtain ⟨earlier, last⟩ := List.forall_mem_append.mp printable
      exact blanks_ahead earlier (last line List.mem_cons_self)

end Blanks
end Text

theorem Segments.length_completed_cut (arrivals : List Arrival) :
    (cut arrivals).completed.length = arrivals.countP Arrival.completes := by
  induction arrivals using List.reverseRecOn with
  | nil => rfl
  | append_singleton arrivals arrival ih =>
    rw [cut_concat, add, List.countP_append, List.countP_singleton]
    split <;> simp_all

theorem Timeline.stages_go_forward {timeline : Timeline} (numbers : ∀ time ∈ timeline.readings, time.IsNumber)
    (steady : timeline.readings.Pairwise fun earlier later => earlier.le later = true) (capacity : Nat)
    (announced? : Option Binary64) :
    let snapshots := timeline.stages.map (Stage.snapshot capacity announced? timeline.start)
    snapshots.Pairwise (fun earlier later => earlier.bytesDownloaded.le later.bytesDownloaded = true ∧
      earlier.elapsedSeconds.le later.elapsedSeconds = true) ∧
    ∀ snapshot ∈ snapshots, Binary64.le 0 snapshot.elapsedSeconds = true := by
  intro snapshots
  have times := timeline.times_stages
  have ordered := steady.sublist times
  rw [List.pairwise_cons] at ordered
  obtain ⟨first, later⟩ := ordered
  have start : timeline.start.IsNumber := numbers _ List.mem_cons_self
  have number : ∀ stage ∈ timeline.stages, stage.time.IsNumber := fun stage member =>
    numbers _ (times.subset (List.mem_cons_of_mem _ (List.mem_map_of_mem member)))
  have after : ∀ stage ∈ timeline.stages, timeline.start.le stage.time = true := fun stage member =>
    first _ (List.mem_map_of_mem member)
  have reflexive : ∀ stage ∈ timeline.stages, stage.time.le stage.time = true := fun stage member =>
    (Binary64.le_iff_of_isFinite (number stage member).1 (number stage member).1).mpr le_rfl
  refine ⟨?_, ?_⟩
  · rw [List.pairwise_map] at later ⊢
    refine (timeline.pairwise_stages.and later).imp_of_mem ?_
    rintro x y left right ⟨precedes, order⟩
    exact ⟨Binary64.ofNat_mono precedes.total_le,
      (Binary64.seconds_le_seconds start (number x left) (number y right) (after x left) order).2⟩
  · intro snapshot member
    obtain ⟨stage, drawn, rfl⟩ := List.mem_map.mp member
    exact (Binary64.seconds_le_seconds start (number stage drawn) (number stage drawn) (after stage drawn)
      (reflexive stage drawn)).1

namespace Transfer
variable {κ : Type} [Clock κ]

omit [Clock κ] in
theorem Reading.Leaves.lines {options : TransferOptions} {earlier : List String} {snapshots : List Snapshot}
    {reading : Reading κ} (leaves : reading.Leaves options earlier snapshots) :
    ∃ chunks, reading.transfer.display.terminal.texts = earlier ++ chunks ∧
      chunks.filter (fun chunk => Printable chunk.toList) = snapshots.map Snapshot.line ∧ Blanks chunks := by
  obtain ⟨chunks, texts, ended⟩ := leaves.ended
  refine ⟨chunks, texts, filter_of_ended ended ?_⟩
  intro line member
  obtain ⟨snapshot, -, rfl⟩ := List.mem_map.mp member
  exact printable_line snapshot

section Run
variable {options : TransferOptions} {blockSize capacity : Nat} {terminal : Terminal}

theorem reports_run (sized : options.chunkSize.positiveInteger? = some blockSize)
    (sampled : options.speedSamples.positiveInteger? = some capacity) {listener : Listener}
    (seated : options.listener? = some listener) (source : Source) (clock : κ) (terminal : Terminal) :
    let timeline := (opened options source.announced? clock terminal blockSize capacity).timeline source
    (run options source clock terminal).reports.toList =
      timeline.stages.map (Stage.snapshot capacity source.announced? timeline.start) := by
  intro timeline
  have room := (Binary64.eq_finite_of_positiveInteger? sampled).2
  let begun := opened options source.announced? clock terminal blockSize capacity
  rw [run_of_sound sized sampled, (begun.written_download source).2]
  exact (records_reports listener).reading ⟨seated, rfl⟩ room rfl (counts_opened ..) source

theorem texts_run (sized : options.chunkSize.positiveInteger? = some blockSize)
    (sampled : options.speedSamples.positiveInteger? = some capacity) (accepts : terminal.behaviour.Accepts)
    (source : Source) (clock : κ) :
    let timeline := (opened options source.announced? clock terminal blockSize capacity).timeline source
    let snapshots := timeline.stages.map (Stage.snapshot capacity source.announced? timeline.start)
    ∃ chunks, (run options source clock terminal).display.terminal.texts = terminal.texts ++ chunks ∧
      chunks.filter (fun chunk => Printable chunk.toList) = snapshots.map Snapshot.line ∧ Blanks chunks := by
  intro timeline snapshots
  have room := (Binary64.eq_finite_of_positiveInteger? sampled).2
  let begun := opened options source.announced? clock terminal blockSize capacity
  have draws : begun.Draws options terminal.texts [] :=
    draws_opened options source.announced? clock blockSize capacity accepts
  have leaves := (records_draws options terminal.texts).reading draws room rfl (counts_opened ..) source
  obtain ⟨chunks, texts, lines, blanks⟩ := leaves.lines
  refine ⟨chunks, ?_, lines, blanks⟩
  rw [run_of_sound sized sampled, ← texts, Terminal.texts, Terminal.texts, (begun.written_download source).1]

end Run

/-- On a terminal that accepts all it is given, and on a clock that does not go back: the lines are those of the
snapshots that the listener is told of, bytes and seconds go forward from each to the next, and a transfer that ends
well makes one report for each sample and a last one on all that it hands out. -/
theorem run_reports_agree_with_lines (options : TransferOptions) (source : Source) (clock : κ) (terminal : Terminal)
    (blockSize capacity : Nat) (listener : Listener) (sized : options.chunkSize.positiveInteger? = some blockSize)
    (sampled : options.speedSamples.positiveInteger? = some capacity) (seated : options.listener? = some listener)
    (accepts : terminal.behaviour.Accepts) :
    let begun := opened options source.announced? clock terminal blockSize capacity
    let timeline := begun.timeline source
    let result := run options source clock terminal
    (∀ time ∈ timeline.readings, time.IsNumber) →
    timeline.readings.Pairwise (fun earlier later => earlier.le later = true) →
    (∃ chunks, result.display.terminal.texts = terminal.texts ++ chunks ∧
      chunks.filter (fun chunk => Printable chunk.toList) = result.reports.toList.map Snapshot.line ∧
      Blanks chunks) ∧
    result.reports.toList.Pairwise (fun earlier later =>
      earlier.bytesDownloaded.le later.bytesDownloaded = true ∧
      earlier.elapsedSeconds.le later.elapsedSeconds = true) ∧
    (∀ snapshot ∈ result.reports.toList, Binary64.le 0 snapshot.elapsedSeconds = true) ∧
    (∃ final, result.final? = some final ∧ final.Counts capacity timeline.arrived) ∧
    ∀ store, result.outcome = .ok store →
      result.reports.size = (Segments.cut timeline.arrived).completed.length + 1 ∧
      result.reports.toList.getLast?.map Snapshot.bytesDownloaded = some (.ofNat store.cells.size) := by
  intro begun timeline result numbers steady
  have room := (Binary64.eq_finite_of_positiveInteger? sampled).2
  have same : result = begun.download source := run_of_sound sized sampled source clock terminal
  have told : result.reports.toList = timeline.stages.map (Stage.snapshot capacity source.announced? timeline.start) :=
    reports_run sized sampled seated source clock terminal
  have forward := Timeline.stages_go_forward numbers steady capacity source.announced?
  rw [← told] at forward
  refine ⟨?_, forward.1, forward.2, ?_, ?_⟩
  · rw [told]
    exact texts_run sized sampled accepts source clock
  · rw [same]
    exact counts_download source (counts_reading room rfl (counts_opened ..) source)
  · intro store resolved
    rw [same] at resolved
    obtain ⟨time, last, total⟩ : ∃ time, timeline.last? = some time ∧
        Stage.total ⟨timeline.arrived, time⟩ = store.cells.size := timeline_of_resolved resolved
    refine ⟨?_, ?_⟩
    · rw [← Array.length_toList, told, List.length_map, Timeline.length_stages, Segments.length_completed_cut, last]
      rfl
    · rw [told, Timeline.stages, last, ← total]
      simp [Stage.snapshot, Snapshot.describe]

/-- The second and the third block complete an interval each, one read is interrupted, and the clock moves with every
reading. -/
theorem run_reports_agree_with_lines_of_two_ticks :
    let options : TransferOptions := ⟨4, 2, 5, some ⟨0, fun _ => none⟩, fun _ => true⟩
    let again : Value := .error (.raised .error "" none (.text "EINTR"))
    let reads : List ReadStep :=
      [⟨[], .ok ⟨#[1, 2, 3]⟩⟩, ⟨[9], .ok ⟨#[4]⟩⟩, ⟨[900], .error again⟩, ⟨[400], .ok ⟨#[5, 6]⟩⟩]
    let result := run options ⟨some 5, fun _ => reads, .works⟩ (⟨-3, 1⟩ : Stopwatch) (.fresh .healthy)
    result.reports.toList.map (fun s => (s.bytesDownloaded, s.elapsedSeconds)) = [(4, 0), (6, 1), (6, 1)] ∧
      ∃ chunks, result.display.terminal.texts = chunks ∧ Blanks chunks ∧
        chunks.filter (fun chunk => Printable chunk.toList) = result.reports.toList.map Snapshot.line := by
  intro options again reads result
  have accepts : TerminalBehaviour.healthy.Accepts :=
    ⟨fun _ => ⟨.atOnce, rfl⟩, fun _ _ _ => ⟨List.not_mem_nil, List.not_mem_nil⟩⟩
  obtain ⟨⟨chunks, texts, lines, blanks⟩, -⟩ := run_reports_agree_with_lines options ⟨some 5, fun _ => reads, .works⟩
    (⟨-3, 1⟩ : Stopwatch) (.fresh .healthy) 4 2 ⟨0, fun _ => none⟩ (by decide +kernel) (by decide +kernel) rfl accepts
    (by decide +kernel) (by decide +kernel)
  refine ⟨by decide +kernel, chunks, texts, blanks, lines⟩

end Transfer
end MeteredDownload
