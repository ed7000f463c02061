import MeteredDownload.Proofs.Agreement

/-!
# The pace of the redraws

A block completes an interval if it arrives that long after the tick clock, which starts with the first block and anew
behind each redraw (`Beat.Paced`).  From one tick to the next the tick clock only goes forward, so the intervals of a
transfer lie one behind the other between its first block and its last (`Timeline.KeepsPace`).  A time is measured in
binary numbers and so rounded; what this says of the exact times is that they are no shorter than any number that
rounds to less than the interval.
-/
set_option autoImplicit false
namespace MeteredDownload

open Numeric Report Text

namespace Beat

/-- From this tick clock on, a block completes an interval exactly if it arrives as long after the clock, or later. -/
def Paced (interval : Binary64) : Option Binary64 → List Beat → Prop
  | _, [] => True
  | clock?, beat :: rest =>
    beat.completes = interval.le (beat.arrival - clock?.getD beat.arrival) ∧
      Paced interval (clockAfter clock? beat) rest

theorem paced_append {interval : Binary64} {clock? : Option Binary64} {beats more : List Beat} :
    Paced interval clock? (beats ++ more) ↔
      Paced interval clock? beats ∧ Paced interval (beats.foldl clockAfter clock?) more := by
  induction beats generalizing clock? with
  | nil => simp [Paced]
  | cons beat rest ih => simp [Paced, ih, and_assoc]

/-! ## The tick clock between two blocks -/

section TickClock
variable {interval time : Binary64} {least : Rat} {beats : List Beat} {beat : Beat}

theorem tickClock?_concat (beats : List Beat) (beat : Beat) :
    tickClock? (beats ++ [beat]) = clockAfter (tickClock? beats) beat := by
  simp [tickClock?]

theorem clockAfter_of_completes (completes : beat.completes = true) (settled : beat.Settled)
    (clock? : Option Binary64) :
    ∃ redraw reset, beat.redraw? = some redraw ∧ redraw.reset? = some reset ∧ clockAfter clock? beat = some reset := by
  obtain ⟨redraw, drawn⟩ := Option.isSome_iff_exists.mp completes
  obtain ⟨reset, again⟩ := Option.isSome_iff_exists.mp (settled redraw drawn)
  exact ⟨redraw, reset, drawn, again, by simp [clockAfter, drawn, again]⟩

theorem clockAfter_of_not_completes (more : beat.completes = false) (clock? : Option Binary64) :
    clockAfter clock? beat = some (clock?.getD beat.arrival) := by
  have undrawn : beat.redraw? = none := by simpa [completes] using more
  rw [clockAfter, undrawn]
  cases clock? <;> rfl

/-- The blocks of one transfer on a clock that does not go back.  Only behind the last one may the tick clock not
have started anew. -/
structure Orderly (interval : Binary64) (beats : List Beat) : Prop where
  paced : Paced interval none beats
  settled : ∀ beat ∈ beats.dropLast, beat.Settled
  numbers : ∀ time ∈ beats.flatMap readings, time.IsNumber
  steady : (beats.flatMap readings).Pairwise fun earlier later => earlier.value ≤ later.value

theorem arrival_mem (beat : Beat) : beat.arrival ∈ beat.readings := List.mem_cons_self

theorem Orderly.init (orderly : Orderly interval (beats ++ [beat])) :
    Orderly interval beats ∧ ∀ b ∈ beats, b.Settled := by
  have settled : ∀ b ∈ beats, b.Settled := by simpa using orderly.settled
  have numbers := orderly.numbers
  have steady := orderly.steady
  rw [List.flatMap_append] at numbers steady
  exact ⟨⟨(paced_append.mp orderly.paced).1, fun b member => settled b (List.dropLast_subset beats member),
    fun time member => numbers time (List.mem_append_left _ member), (List.pairwise_append.mp steady).1⟩, settled⟩

theorem Orderly.due {before after : List Beat} (orderly : Orderly interval (before ++ beat :: after)) :
    beat.completes = interval.le (beat.arrival - (tickClock? before).getD beat.arrival) :=
  (paced_append.mp orderly.paced).2.1

theorem Orderly.value_le (orderly : Orderly interval (beats ++ [beat])) {earlier later : Binary64}
    (before : earlier ∈ beats.flatMap readings) (within : later ∈ beat.readings) : earlier.value ≤ later.value := by
  have steady := orderly.steady
  rw [List.flatMap_append] at steady
  exact (List.pairwise_append.mp steady).2.2 earlier before later (by simpa using within)

theorem Orderly.number (orderly : Orderly interval (beats ++ [beat])) (within : time ∈ beat.readings) :
    time.IsNumber :=
  orderly.numbers time (by rw [List.flatMap_append]; exact List.mem_append_right _ (by simpa using within))

theorem Orderly.first {after : List Beat} (orderly : Orderly interval (beat :: after))
    (positive : Binary64.lt 0 interval = true) : beat.completes = false := by
  have first : Orderly interval ([] ++ beat :: after) := orderly
  rw [first.due]
  exact Binary64.not_le_sub_self (orderly.numbers beat.arrival (by simp [readings])) positive

def Reaches (interval : Binary64) (least : Rat) (times : List Binary64) : Prop :=
  ∀ later ∈ times, ∀ earlier ∈ times, earlier.value ≤ later.value → interval.le (later - earlier) = true →
    least ≤ later.value - earlier.value

theorem Reaches.init (reaches : Reaches interval least ((beats ++ [beat]).flatMap readings)) :
    Reaches interval least (beats.flatMap readings) := by
  intro later later_mem earlier earlier_mem
  rw [List.flatMap_append] at reaches
  exact reaches later (List.mem_append_left _ later_mem) earlier (List.mem_append_left _ earlier_mem)

/-- What the tick clock behind some blocks says of them: it was read, no block that completed an interval came after
it, and it is as far from the first block as the intervals are long. -/
structure Clocked (least : Rat) (beats : List Beat) (time : Binary64) : Prop where
  read : time ∈ beats.flatMap readings
  behind : ∀ beat ∈ beats, beat.completes = true → beat.arrival.value ≤ time.value
  span : ∀ first ∈ beats.head?, first.arrival.value + beats.countP completes * least ≤ time.value

theorem Clocked.concat (clocked : Clocked least beats time) (orderly : Orderly interval (beats ++ [beat]))
    (settled : beat.Settled) (clock : tickClock? beats = some time)
    (reaches : Reaches interval least ((beats ++ [beat]).flatMap readings)) :
    ∃ later, tickClock? (beats ++ [beat]) = some later ∧ Clocked least (beats ++ [beat]) later := by
  have arrival := orderly.value_le clocked.read beat.arrival_mem
  have tested := orderly.due
  rw [clock, Option.getD_some] at tested
  have head : ∀ first ∈ (beats ++ [beat]).head?, first ∈ beats.head? := by
    have nonempty : beats ≠ [] := by
      rintro rfl
      cases clock
    intro first member
    rwa [List.head?_append_of_ne_nil _ nonempty] at member
  rw [tickClock?_concat, clock]
  cases completes : beat.completes with
  | false =>
    refine ⟨time, clockAfter_of_not_completes completes _, ⟨?_, ?_, ?_⟩⟩
    · rw [List.flatMap_append]
      exact List.mem_append_left _ clocked.read
    · intro b member done
      rcases List.mem_append.mp member with earlier | last
      · exact clocked.behind b earlier done
      · rw [List.mem_singleton.mp last, completes] at done
        cases done
    · intro first member
      simpa [completes] using clocked.span first (head first member)
  | true =>
    obtain ⟨redraw, reset, drawn, again, moved⟩ := clockAfter_of_completes completes settled (some time)
    have read : reset ∈ beat.readings := by simp [readings, drawn, Redraw.readings, again]
    -- The redraw comes between the arrival of the block and the new start of the tick clock.
    have later : beat.arrival.value ≤ reset.value := by
      have steady := orderly.steady
      rw [List.flatMap_append, List.flatMap_singleton, readings, drawn] at steady
      have within := (List.pairwise_cons.mp (List.pairwise_append.mp steady).2.1).1
      exact within reset (by simp [Redraw.readings, again])
    have interval_passed : least ≤ beat.arrival.value - time.value :=
      reaches beat.arrival (by simp [readings]) time (by simp [clocked.read]) arrival (tested ▸ completes)
    refine ⟨reset, moved, ⟨?_, ?_, ?_⟩⟩
    · rw [List.flatMap_append, List.mem_append]
      exact .inr (by simpa using read)
    · intro b member done
      rcases List.mem_append.mp member with earlier | last
      · exact (clocked.behind b earlier done).trans (arrival.trans later)
      · rwa [List.mem_singleton.mp last]
    · intro first member
      have before := clocked.span first (head first member)
      rw [List.countP_append, List.countP_singleton, completes, if_pos rfl]
      push_cast
      linarith

theorem clocked_singleton (orderly : Orderly interval [beat]) (positive : Binary64.lt 0 interval = true)
    (least : Rat) : tickClock? [beat] = some beat.arrival ∧ Clocked least [beat] beat.arrival := by
  have more := orderly.first positive
  refine ⟨clockAfter_of_not_completes more none, ⟨by simp [readings], ?_, ?_⟩⟩
  · intro b member _
    rw [List.mem_singleton.mp member]
  · intro first member
    obtain rfl : beat = first := by simpa using member
    simp [more]

theorem Orderly.clocked (orderly : Orderly interval (beats ++ [beat])) (settled : beat.Settled)
    (positive : Binary64.lt 0 interval = true) (reaches : Reaches interval least ((beats ++ [beat]).flatMap readings)) :
    ∃ time, tickClock? (beats ++ [beat]) = some time ∧ Clocked least (beats ++ [beat]) time := by
  induction beats using List.reverseRecOn generalizing beat with
  | nil => exact ⟨_, clocked_singleton orderly positive least⟩
  | append_singleton beats b ih =>
    obtain ⟨before, all⟩ := orderly.init
    obtain ⟨time, clock, clocked⟩ := ih before (all b (by simp)) reaches.init
    exact clocked.concat orderly settled clock reaches

theorem Orderly.clocked_before (orderly : Orderly interval (beats ++ [beat])) (positive : Binary64.lt 0 interval = true)
    (reaches : Reaches interval least ((beats ++ [beat]).flatMap readings)) :
    (beats = [] ∧ beat.completes = false) ∨
    ∃ time, Clocked least beats time ∧ time.value ≤ beat.arrival.value ∧
      beat.completes = interval.le (beat.arrival - time) := by
  rcases List.eq_nil_or_concat beats with rfl | ⟨front, b, rfl⟩
  · exact .inl ⟨rfl, orderly.first positive⟩
  · rw [List.concat_eq_append] at orderly reaches ⊢
    obtain ⟨before, all⟩ := orderly.init
    obtain ⟨time, clock, clocked⟩ := before.clocked (all b (by simp)) positive reaches.init
    have tested := orderly.due
    rw [clock] at tested
    exact .inr ⟨time, clocked, orderly.value_le clocked.read beat.arrival_mem, tested⟩

theorem Orderly.apart (orderly : Orderly interval beats) (positive : Binary64.lt 0 interval = true) :
    (beats.filter completes).Pairwise fun earlier later => interval.le (later.arrival - earlier.arrival) = true := by
  induction beats using List.reverseRecOn with
  | nil => exact .nil
  | append_singleton beats beat ih =>
    rw [List.filter_append, List.pairwise_append]
    refine ⟨ih orderly.init.1, (List.pairwise_singleton ..).filter _, ?_⟩
    intro b earlier last done
    obtain ⟨member, completed⟩ := List.mem_filter.mp earlier
    obtain ⟨one, completes⟩ := List.mem_filter.mp done
    obtain rfl := List.mem_singleton.mp one
    -- No time is below zero, so this says nothing of the length of the intervals.
    have reaches : Reaches interval 0 ((beats ++ [last]).flatMap readings) := by
      intro later _ earlier _ order _
      linarith
    rcases orderly.clocked_before positive reaches with ⟨rfl, -⟩ | ⟨time, clocked, arrival, tested⟩
    · cases member
    · have read : time.IsNumber := orderly.init.1.numbers time clocked.read
      have first : b.arrival.IsNumber := orderly.init.1.numbers _ (List.mem_flatMap.mpr ⟨b, member, b.arrival_mem⟩)
      have second : last.arrival.IsNumber := orderly.number last.arrival_mem
      exact Binary64.le_trans (tested ▸ completes)
        (Binary64.sub_le_sub first read second (clocked.behind b member completed) arrival).2

theorem Orderly.span (orderly : Orderly interval beats) (positive : Binary64.lt 0 interval = true)
    (reaches : Reaches interval least (beats.flatMap readings)) {first last : Beat} (head : beats.head? = some first)
    (tail : beats.getLast? = some last) :
    beats.countP completes * least ≤ last.arrival.value - first.arrival.value := by
  rcases List.eq_nil_or_concat beats with rfl | ⟨front, beat, rfl⟩
  · cases head
  · rw [List.concat_eq_append] at *
    obtain rfl : beat = last := by simpa using tail
    rcases orderly.clocked_before positive reaches with ⟨rfl, more⟩ | ⟨time, clocked, arrival, tested⟩
    · obtain rfl : beat = first := by simpa using head
      simp [more]
    · have nonempty : front ≠ [] := by
        rintro rfl
        cases clocked.read
      rw [List.head?_append_of_ne_nil _ nonempty] at head
      have before := clocked.span first head
      cases completes : beat.completes with
      | false =>
        rw [List.countP_append, List.countP_singleton, completes, if_neg Bool.false_ne_true, Nat.add_zero]
        linarith
      | true =>
        have passed : least ≤ beat.arrival.value - time.value :=
          reaches beat.arrival (by simp [readings]) time (by simp [clocked.read]) arrival (tested ▸ completes)
        rw [List.countP_append, List.countP_singleton, completes, if_pos rfl]
        push_cast
        linarith

theorem Orderly.reaches_of_whole {limit : Rat} (orderly : Orderly interval beats) (same : interval = .finite limit)
    (integers : ∀ time ∈ beats.flatMap readings, time.isInteger = true)
    (near : ∀ later ∈ beats.flatMap readings, ∀ earlier ∈ beats.flatMap readings,
      later.value - earlier.value < 2 ^ 53) :
    Reaches interval limit (beats.flatMap readings) := by
  intro later later_mem earlier earlier_mem order reached
  rw [same] at reached
  exact Binary64.le_of_le_sub_of_whole (orderly.numbers later later_mem) (orderly.numbers earlier earlier_mem)
    ⟨integers later later_mem, integers earlier earlier_mem⟩ order (near later later_mem earlier earlier_mem) reached

end TickClock
end Beat

/-! ## The pace of a transfer -/

namespace Timeline

def ticks (timeline : Timeline) : List Beat := timeline.beats.filter Beat.completes

structure KeepsPace (interval : Binary64) (timeline : Timeline) : Prop where
  /-- A block completes an interval exactly if it arrives that long after the tick clock, or later. -/
  due : ∀ before beat after, timeline.beats = before ++ beat :: after →
    (beat.completes = true ↔ interval.le (beat.arrival - (Beat.tickClock? before).getD beat.arrival) = true)
  first : ∀ first ∈ timeline.beats.head?, first.completes = false
  apart : timeline.ticks.Pairwise fun earlier later => interval.le (later.arrival - earlier.arrival) = true
  /-- The time from the first block to the last has room for the intervals, each as long as any number that rounds
  to less. -/
  span : ∀ first ∈ timeline.beats.head?, ∀ last ∈ timeline.beats.getLast?, ∀ least : Rat,
    (Binary64.ofRat least).lt interval = true →
      timeline.ticks.length * least ≤ last.arrival.value - first.arrival.value
  /-- Whole numbers near each other have exact differences, so there is room for the intervals themselves. -/
  whole : (∀ time ∈ timeline.readings, time.isInteger = true) →
    (∀ later ∈ timeline.readings, ∀ earlier ∈ timeline.readings, later.value - earlier.value < 2 ^ 53) →
    ∀ first ∈ timeline.beats.head?, ∀ last ∈ timeline.beats.getLast?, ∀ limit, interval = .finite limit →
      timeline.ticks.length * limit ≤ last.arrival.value - first.arrival.value

theorem keepsPace_of_orderly {interval : Binary64} {timeline : Timeline} (orderly : Beat.Orderly interval timeline.beats)
    (positive : Binary64.lt 0 interval = true) : timeline.KeepsPace interval := by
  have count : timeline.ticks.length = timeline.beats.countP Beat.completes := List.countP_eq_length_filter.symm
  have among : ∀ time ∈ timeline.beats.flatMap Beat.readings, time ∈ timeline.readings := fun time member =>
    List.mem_cons_of_mem _ (List.mem_append_left _ member)
  refine ⟨?_, ?_, orderly.apart positive, ?_, ?_⟩
  · intro before beat after same
    rw [same] at orderly
    rw [orderly.due]
  · intro first head
    obtain ⟨rest, same⟩ := List.head?_eq_some_iff.mp head
    rw [same] at orderly
    exact orderly.first positive
  · intro first head last tail least below
    have reaches : Beat.Reaches interval least (timeline.beats.flatMap Beat.readings) := by
      intro later later_mem earlier earlier_mem order reached
      exact Binary64.le_of_le_sub (orderly.numbers later later_mem) (orderly.numbers earlier earlier_mem) order reached
        below
    rw [count]
    exact orderly.span positive reaches head tail
  · intro integers near first head last tail limit same
    have reaches := orderly.reaches_of_whole same (fun time member => integers time (among time member))
      fun later later_mem earlier earlier_mem => near later (among later later_mem) earlier (among earlier earlier_mem)
    rw [count]
    exact orderly.span positive reaches head tail

end Timeline

namespace Transfer
variable {κ : Type} [Clock κ]

section Timeline
variable {t : Transfer κ} {made rest : List ReadStep}

theorem paced_beat (step : ReadStep) (t : Transfer κ) :
    Beat.Paced t.options.tickInterval t.lastTick? (t.beat step) := by
  unfold beat
  split
  · trivial
  split
  · trivial
  refine ⟨?_, trivial⟩
  show (if (t.awaited step).isDue then some _ else none).isSome = (t.awaited step).isDue
  cases (t.awaited step).isDue <;> rfl

theorem paced_goes (goes : t.Goes made) : Beat.Paced t.options.tickInterval t.lastTick? (t.beats made) := by
  refine (goes.keeps (fun made u => t.Goes made ∧ Beat.Paced t.options.tickInterval t.lastTick? (t.beats made))
    ⟨.start, trivial⟩ ?_).2
  rintro made step ⟨goes, before⟩ on unopposed
  refine ⟨goes.on on unopposed, ?_⟩
  rw [beats_append, beats, beats, List.append_nil, Beat.paced_append, ← lastTick?_goes goes,
    ← (t.afterAll_continues made).options]
  exact ⟨(t.afterAll_continues made).options ▸ before, paced_beat step _⟩

theorem beats_take_one (rest : List ReadStep) (t : Transfer κ) :
    t.beats (rest.take 1) = [] ∨ ∃ beat, t.beats (rest.take 1) = [beat] := by
  cases rest with
  | nil => exact .inl rfl
  | cons step rest =>
    show t.beat step ++ [] = [] ∨ ∃ beat, t.beat step ++ [] = [beat]
    rw [List.append_nil, beat]
    split
    · exact .inl rfl
    split
    · exact .inl rfl
    · exact .inr ⟨_, rfl⟩

theorem paced_timeline (source : Source) (t : Transfer κ) :
    Beat.Paced t.options.tickInterval t.lastTick? (t.timeline source).beats := by
  rcases t.reading_course source with ⟨failure, refused⟩ | ⟨made, rest, course⟩
  · rw [timeline_of_refused refused]
    trivial
  · rw [timeline_of_course course, Beat.paced_append, ← lastTick?_goes course.goes]
    refine ⟨paced_goes course.goes, ?_⟩
    cases rest with
    | nil => trivial
    | cons step rest =>
      show Beat.Paced _ _ ((t.afterAll made).beat step ++ [])
      rw [List.append_nil, ← (t.afterAll_continues made).options]
      exact paced_beat step _

/-- A listener who objects to a report ends the transfer, so only the last block may come without a new start of the
tick clock. -/
theorem settled_timeline (source : Source) (t : Transfer κ) :
    ∀ beat ∈ (t.timeline source).beats.dropLast, beat.Settled := by
  rcases t.reading_course source with ⟨failure, refused⟩ | ⟨made, rest, course⟩
  · simp [timeline_of_refused refused]
  · have settled := settled_goes course.goes
    rw [timeline_of_course course]
    rcases beats_take_one rest (t.afterAll made) with nothing | ⟨beat, one⟩
    · rw [nothing, List.append_nil]
      exact fun beat member => settled beat (List.dropLast_subset _ member)
    · rw [one, List.dropLast_concat]
      exact settled

theorem lastTick?_conclude (interrupts : Nat) (store : Store) (visits : Array TransferState) (t : Transfer κ) :
    (t.conclude interrupts store visits).transfer.lastTick? = t.lastTick? := by
  obtain ⟨display, reports, completed⟩ := t.complete_fst interrupts
  rw [transfer_conclude, completed]

theorem lastTick?_ends {reading : Reading κ} (ends : t.Ends rest reading) :
    reading.transfer.lastTick? = (t.beats (rest.take 1)).foldl Beat.clockAfter t.lastTick? := by
  cases ends with
  | spent => exact lastTick?_conclude ..
  | @whole step rest _ _ _ last =>
    have stop := beat_of_stop (ReadStep.goesOn_of_isEnd last) t
    rw [List.take_succ_cons, List.take_zero, beats, stop]
    exact lastTick?_conclude ..
  | @failed step reason rest _ failed final =>
    have stop := beat_of_stop (ReadStep.goesOn_of_failed failed final) t
    rw [List.take_succ_cons, List.take_zero, beats, stop]
    rfl
  | @opposed step objection rest _ on _ =>
    rw [List.take_succ_cons, List.take_zero, beats, beats, List.append_nil]
    exact lastTick?_after on t

theorem lastTick?_download (source : Source) (t : Transfer κ) :
    ∃ final, (t.download source).final? = some final ∧
      final.lastTick? = (t.timeline source).beats.foldl Beat.clockAfter t.lastTick? := by
  have read : (t.reading source).transfer.lastTick? = (t.timeline source).beats.foldl Beat.clockAfter t.lastTick? := by
    rcases t.reading_course source with ⟨failure, refused⟩ | ⟨made, rest, course⟩
    · rw [timeline_of_refused refused, refused]
      rfl
    · rw [timeline_of_course course, List.foldl_append, ← lastTick?_goes course.goes]
      exact lastTick?_ends course.ends
  have kept : ∀ u : Transfer κ,
      (closeSource source.closing (u.onDisplay Display.close)).1.state.lastTick? = u.lastTick? := by
    intro u
    cases source.closing <;> rfl
  exact ⟨_, rfl, (kept _).trans read⟩

end Timeline

/-- On a clock that does not go back, a transfer redraws its line and takes a sample with those blocks that arrive an
interval or more after its tick clock, and with no others.  The tick clock starts with the first block and anew with a
reading behind each redraw.  So the first block causes no redraw, those that do are an interval apart, and the time
from the first block to the last has room for all their intervals. -/
theorem run_keeps_pace (options : TransferOptions) (source : Source) (clock : κ) (terminal : Terminal)
    (blockSize capacity : Nat) (sized : options.chunkSize.positiveInteger? = some blockSize)
    (sampled : options.speedSamples.positiveInteger? = some capacity)
    (positive : Binary64.lt 0 options.tickInterval = true) :
    let begun := opened options source.announced? clock terminal blockSize capacity
    let timeline := begun.timeline source
    let snapshots := timeline.stages.map (Stage.snapshot capacity source.announced? timeline.start)
    let result := run options source clock terminal
    (∀ time ∈ timeline.readings, time.IsNumber) →
    timeline.readings.Pairwise (fun earlier later => earlier.le later = true) →
    timeline.KeepsPace options.tickInterval ∧
    (∀ k (within : k < result.states.length),
      result.states[k].Counts capacity ((begun.beats ((source.reads blockSize).take k)).map Beat.arrived)) ∧
    (∃ final, result.final? = some final ∧ final.lastTick? = Beat.tickClock? timeline.beats) ∧
    (∀ listener ∈ options.listener?, result.reports.toList = snapshots) ∧
    (terminal.behaviour.Accepts → ∃ chunks, result.display.terminal.texts = terminal.texts ++ chunks ∧
      chunks.filter (fun chunk => Printable chunk.toList) = snapshots.map Snapshot.line) := by
  intro begun timeline snapshots result numbers steady
  have room := (Binary64.eq_finite_of_positiveInteger? sampled).2
  have same : result = begun.download source := run_of_sound sized sampled source clock terminal
  have orderly : Beat.Orderly options.tickInterval timeline.beats := by
    have among : (timeline.beats.flatMap Beat.readings).Sublist timeline.readings :=
      (List.sublist_append_left ..).cons _
    refine ⟨paced_timeline source begun, settled_timeline source begun,
      fun time member => numbers time (among.subset member), ?_⟩
    refine (steady.sublist among).imp_of_mem ?_
    intro earlier later first second order
    exact (Binary64.le_iff_of_isFinite (numbers _ (among.subset first)).1 (numbers _ (among.subset second)).1).mp order
  refine ⟨Timeline.keepsPace_of_orderly orderly positive, ?_, ?_, ?_, ?_⟩
  · obtain ⟨final, ended, counts⟩ := counts_states room (rfl : begun.window.capacity = capacity)
      (counts_opened ..) source
    have states : result.states = (begun.download source).visits.toList ++ [final] := by
      rw [TransferResult.states, same, ended]
      rfl
    intro k within
    simp only [states] at within ⊢
    rw [arrived_beats]
    exact counts k within
  · rw [same]
    exact lastTick?_download source begun
  · intro listener seated
    exact reports_run sized sampled seated source clock terminal
  · intro accepts
    obtain ⟨chunks, texts, lines, -⟩ := texts_run sized sampled accepts source clock
    exact ⟨chunks, texts, lines⟩

/-- The clock moves with every reading and while the line is drawn, and one read is interrupted.  The second and the
fourth block cause a redraw; the third comes too early for one, being measured from behind the first redraw. -/
theorem run_keeps_pace_of_moving_clock :
    let listener : Listener := ⟨0, fun _ => none⟩
    let options : TransferOptions := ⟨4, 2, 10, some listener, fun _ => true⟩
    let again : Value := .error (.raised .error "" none (.text "EINTR"))
    let reads : List ReadStep :=
      [⟨[], .ok ⟨#[1]⟩⟩, ⟨[9], .ok ⟨#[2]⟩⟩, ⟨[3], .error again⟩, ⟨[5], .ok ⟨#[3]⟩⟩, ⟨[2], .ok ⟨#[4]⟩⟩]
    let source : Source := ⟨none, fun _ => reads, .works⟩
    let terminal : Terminal := .fresh { TerminalBehaviour.healthy with delay := 4 }
    let timeline := (opened options none (⟨0, 1⟩ : Stopwatch) terminal 4 2).timeline source
    timeline.beats.map (fun beat => (beat.arrival, beat.completes)) =
        [(1, false), (11, true), (30, false), (33, true)] ∧
      (run options source (⟨0, 1⟩ : Stopwatch) terminal).reports.size = 3 ∧
      ∀ first ∈ timeline.beats.head?, ∀ last ∈ timeline.beats.getLast?,
        timeline.ticks.length * (10 : Nat) ≤ last.arrival.value - first.arrival.value := by
  intro listener options again reads source terminal timeline
  obtain ⟨paced, -⟩ := run_keeps_pace options source (⟨0, 1⟩ : Stopwatch) terminal 4 2 (by decide +kernel)
    (by decide +kernel) (by decide +kernel) (by decide +kernel) (by decide +kernel)
  refine ⟨by decide +kernel, by decide +kernel, ?_⟩
  intro first head last tail
  have ten : (10 : Binary64) = .finite (10 : Nat) := Binary64.ofNat_eq_finite (by decide)
  exact paced.whole (by decide +kernel) (by decide +kernel) first head last tail _ ten

/-- A block that arrives `2 ^ 53 + 3` after the tick clock is in time for an interval of `2 ^ 53 + 4`, since no binary
number lies at the exact difference.  Of three redraws two come too early by one in this way, so there is no room for
three intervals, be their length and the time between the blocks exact or rounded. -/
theorem not_room_for_intervals_of_every_run :
    ¬ ∀ (options : TransferOptions) (source : Source) (clock : Stopwatch) (terminal : Terminal)
        (blockSize capacity : Nat) (limit : Rat), options.chunkSize.positiveInteger? = some blockSize →
        options.speedSamples.positiveInteger? = some capacity → options.tickInterval = .finite limit → 0 < limit →
        let timeline := (opened options source.announced? clock terminal blockSize capacity).timeline source
        (∀ time ∈ timeline.readings, time.IsNumber) →
        timeline.readings.Pairwise (fun earlier later => earlier.le later = true) →
        ∀ first ∈ timeline.beats.head?, ∀ last ∈ timeline.beats.getLast?,
          timeline.ticks.length * limit ≤ last.arrival.value - first.arrival.value ∨
          (Binary64.ofNat timeline.ticks.length * options.tickInterval).le (last.arrival - first.arrival) = true := by
  intro every
  let again : Value := .error (.raised .error "" none (.text "EINTR"))
  let far : Binary64 := .finite (2 ^ 53 + 2)
  let reads : List ReadStep :=
    [⟨[], .ok ⟨#[1]⟩⟩, ⟨[far], .error again⟩, ⟨[1], .ok ⟨#[2]⟩⟩, ⟨[far], .ok ⟨#[3]⟩⟩,
      ⟨[.finite (2 ^ 53 + 4)], .ok ⟨#[4]⟩⟩]
  let options : TransferOptions := ⟨4, 5, .finite (2 ^ 53 + 4), none, fun _ => true⟩
  let source : Source := ⟨none, fun _ => reads, .works⟩
  let clock : Stopwatch := ⟨.finite (-(2 ^ 53 + 2)), 0⟩
  let timeline := (opened options none clock (.fresh .healthy) 4 5).timeline source
  have first : timeline.beats.head? = some ⟨1, .finite (-(2 ^ 53 + 2)), none⟩ := by decide +kernel
  have last : timeline.beats.getLast?.map Beat.arrival = some (.finite (2 ^ 54 + 8)) := by decide +kernel
  have ticks : timeline.ticks.length = 3 := by decide +kernel
  obtain ⟨beat, tail, arrival⟩ := Option.map_eq_some_iff.mp last
  have room := every options source clock (.fresh .healthy) 4 5 (2 ^ 53 + 4) (by decide +kernel) (by decide +kernel)
    rfl (by norm_num) (by decide +kernel) (by decide +kernel) _ first beat tail
  have same : (opened options source.announced? clock (.fresh .healthy) 4 5).timeline source = timeline := rfl
  rw [same, ticks, arrival] at room
  exact absurd room (by decide +kernel)

end Transfer
end MeteredDownload
