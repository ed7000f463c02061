import MeteredDownload.Proofs.Pace
import MeteredDownload.Proofs.Speed

/-!
# Speed and time

The speed is the mean of the samples, and a sample is all that has come from one tick to the next, however long that
took.  So it is a number of bytes per tick.  It is one of bytes per second only where the ticks are a second apart: a
window of `count` samples may cover no more than `count` seconds if the speed shall not exceed the rate at which its
bytes have come (`Transfer.run_speed_is_bytes_per_tick`), while it covers `count` intervals at least, and more wherever
the body has stalled.
-/
set_option autoImplicit false
namespace MeteredDownload

open Numeric Report Text

/-! ## Time between ticks -/

namespace Beat
variable {interval start : Binary64} {limit : Rat} {beats more : List Beat}

def marks (start : Binary64) (beats : List Beat) : List Binary64 :=
  (beats.filter completes).reverse.map arrival ++ [start]

theorem Orderly.of_append (orderly : Orderly interval (beats ++ more)) : Orderly interval beats := by
  induction more using List.reverseRecOn with
  | nil => simpa using orderly
  | append_singleton more beat ih =>
    rw [← List.append_assoc] at orderly
    exact ih orderly.init.1

theorem arrivals_sublist (beats : List Beat) : (beats.map arrival).Sublist (beats.flatMap readings) := by
  induction beats with
  | nil => exact .slnil
  | cons beat rest ih =>
    have first : [beat.arrival].Sublist beat.readings := List.singleton_sublist.mpr beat.arrival_mem
    exact first.append ih

theorem Orderly.after_start (orderly : Orderly interval beats) (positive : Binary64.lt 0 interval = true)
    (reaches : Reaches interval limit (beats.flatMap readings)) (long : 0 ≤ limit)
    (begun : ∀ beat ∈ beats, start.value ≤ beat.arrival.value) :
    ∀ beat ∈ beats, beat.completes = true → limit ≤ beat.arrival.value - start.value := by
  intro beat member ticks
  obtain ⟨before, after, rfl⟩ := List.append_of_mem member
  have split : before ++ beat :: after = (before ++ [beat]) ++ after := by simp
  rw [split] at orderly reaches
  have here := orderly.of_append
  have within : Reaches interval limit ((before ++ [beat]).flatMap readings) := by
    rw [List.flatMap_append] at reaches
    exact fun later later_mem earlier earlier_mem =>
      reaches later (List.mem_append_left _ later_mem) earlier (List.mem_append_left _ earlier_mem)
  obtain ⟨first, head⟩ : ∃ first, (before ++ [beat]).head? = some first := by
    cases before with
    | nil => exact ⟨beat, rfl⟩
    | cons b rest => exact ⟨b, rfl⟩
  -- The blocks up to this one have a tick at least, so they span an interval.
  have span := here.span positive within head List.getLast?_concat
  have some : (1 : Rat) ≤ (before ++ [beat]).countP completes := by
    rw [List.countP_append, List.countP_singleton, ticks, if_pos rfl]
    push_cast
    linarith [((before.countP completes).cast_nonneg : (0 : Rat) ≤ _)]
  have early : start.value ≤ first.arrival.value := by
    refine begun first ?_
    have inside := List.mem_of_mem_head? head
    rw [split]
    exact List.mem_append_left _ inside
  have one : limit ≤ (before ++ [beat]).countP completes * limit := le_mul_of_one_le_left long some
  linarith

theorem Orderly.marks_apart (orderly : Orderly interval beats) (positive : Binary64.lt 0 interval = true)
    (reaches : Reaches interval limit (beats.flatMap readings)) (long : 0 ≤ limit)
    (begun : ∀ beat ∈ beats, start.value ≤ beat.arrival.value) :
    (marks start beats).Pairwise fun later earlier => limit ≤ later.value - earlier.value := by
  rw [marks, List.pairwise_append]
  refine ⟨?_, List.pairwise_singleton .., ?_⟩
  · rw [List.map_reverse, List.pairwise_reverse, List.pairwise_map]
    have sublist : ((beats.filter completes).map arrival).Sublist (beats.flatMap readings) :=
      (List.filter_sublist.map arrival).trans (arrivals_sublist beats)
    have order := orderly.steady.sublist sublist
    rw [List.pairwise_map] at order
    refine (order.and (orderly.apart positive)).imp_of_mem ?_
    intro earlier later first second both
    exact reaches later.arrival (sublist.subset (List.mem_map_of_mem second)) earlier.arrival
      (sublist.subset (List.mem_map_of_mem first)) both.1 both.2
  · intro later member earlier last
    obtain rfl := List.mem_singleton.mp last
    obtain ⟨beat, ticked, rfl⟩ := List.mem_map.mp member
    obtain ⟨among, ticks⟩ := List.mem_filter.mp (List.mem_reverse.mp ticked)
    exact orderly.after_start positive reaches long begun beat among ticks

theorem mul_le_of_apart {times : List Binary64} (default : Binary64)
    (apart : times.Pairwise fun later earlier => limit ≤ later.value - earlier.value) {k : Nat}
    (within : k < times.length) :
    k * limit ≤ (times.getD 0 default).value - (times.getD k default).value := by
  induction k generalizing times with
  | zero => simp
  | succ k ih =>
    obtain ⟨later, rest, rfl⟩ := List.exists_cons_of_length_pos (Nat.zero_lt_of_lt within)
    have inside : k < rest.length := Nat.lt_of_succ_lt_succ within
    obtain ⟨earlier, others, rfl⟩ := List.exists_cons_of_length_pos (Nat.zero_lt_of_lt inside)
    have step : limit ≤ later.value - earlier.value := List.rel_of_pairwise_cons apart List.mem_cons_self
    have before := ih (List.pairwise_cons.mp apart).2 inside
    rw [List.getD_cons_zero] at before
    rw [List.getD_cons_zero, List.getD_cons_succ]
    push_cast
    linarith

end Beat

/-! ## The time that a window covers -/

namespace Timeline

def seen (timeline : Timeline) (stage : Stage) : List Beat := timeline.beats.take stage.arrived.length

/-- How much time lies between the newest tick that a stage has seen and the tick before the last `samples` ones, or
the start where there is none. -/
def covered (samples : Nat) (timeline : Timeline) (stage : Stage) : Rat :=
  let marks := Beat.marks timeline.start (timeline.seen stage)
  (marks.getD 0 timeline.start).value - (marks.getD samples timeline.start).value

theorem arrived_seen {timeline : Timeline} {stage : Stage} (member : stage ∈ timeline.stages) :
    (timeline.seen stage).map Beat.arrived = stage.arrived := by
  rw [seen, List.map_take]
  exact (List.prefix_iff_eq_take.mp (arrived_of_mem_stages member)).symm

theorem length_samples {timeline : Timeline} {stage : Stage} (member : stage ∈ timeline.stages) (capacity : Nat) :
    (stage.samples capacity).length = min capacity ((timeline.seen stage).countP Beat.completes) := by
  have ticks : (Segments.cut stage.arrived).completed.length = (timeline.seen stage).countP Beat.completes := by
    rw [Segments.length_completed_cut, ← arrived_seen member, List.countP_map]
    rfl
  rw [Stage.samples, List.length_take, List.length_reverse, Segments.sums, List.length_map, ticks]

end Timeline

/-- What a mean that is rounded down lacks of the whole decides by how much the time may exceed `count` seconds. -/
theorem mul_div_le_iff (bytes count : Nat) (time : Rat) :
    ((bytes / count : Nat) : Rat) * time ≤ 1000 * bytes ↔
      ((bytes / count : Nat) : Rat) * (time - 1000 * count) ≤ 1000 * (bytes % count : Nat) := by
  have split : (bytes : Rat) = count * (bytes / count : Nat) + (bytes % count : Nat) := by
    exact_mod_cast (Nat.div_add_mod bytes count).symm
  rw [split]
  constructor
  · intro less
    linarith
  · intro less
    linarith

namespace Transfer
variable {κ : Type} [Clock κ]

theorem orderly_timeline (source : Source) (t : Transfer κ) (fresh : t.lastTick? = none)
    (numbers : ∀ time ∈ (t.timeline source).readings, time.IsNumber)
    (steady : (t.timeline source).readings.Pairwise fun earlier later => earlier.le later = true) :
    Beat.Orderly t.options.tickInterval (t.timeline source).beats ∧
      ∀ beat ∈ (t.timeline source).beats, (t.timeline source).start.value ≤ beat.arrival.value := by
  have among : ((t.timeline source).beats.flatMap Beat.readings).Sublist (t.timeline source).readings :=
    (List.sublist_append_left ..).cons _
  have values : (t.timeline source).readings.Pairwise fun earlier later => earlier.value ≤ later.value := by
    refine steady.imp_of_mem ?_
    intro earlier later first second order
    exact (Binary64.le_iff_of_isFinite (numbers _ first).1 (numbers _ second).1).mp order
  have paced := paced_timeline source t
  rw [fresh] at paced
  refine ⟨⟨paced, settled_timeline source t, fun time member => numbers time (among.subset member),
    values.sublist among⟩, ?_⟩
  intro beat member
  have arrived := (Beat.arrivals_sublist _).subset (List.mem_map_of_mem member)
  exact (List.pairwise_cons.mp values).1 _ (List.mem_append_left _ arrived)

theorem intervals_le_covered {source : Source} {t : Transfer κ} {stage : Stage} (fresh : t.lastTick? = none)
    (positive : Binary64.lt 0 t.options.tickInterval = true)
    (numbers : ∀ time ∈ (t.timeline source).readings, time.IsNumber)
    (steady : (t.timeline source).readings.Pairwise fun earlier later => earlier.le later = true)
    (integers : ∀ time ∈ (t.timeline source).readings, time.isInteger = true)
    (near : ∀ later ∈ (t.timeline source).readings, ∀ earlier ∈ (t.timeline source).readings,
      later.value - earlier.value < 2 ^ 53)
    {limit : Rat} (interval : t.options.tickInterval = .finite limit) {count : Nat}
    (within : count ≤ ((t.timeline source).seen stage).countP Beat.completes) :
    count * limit ≤ (t.timeline source).covered count stage := by
  obtain ⟨orderly, begun⟩ := orderly_timeline source t fresh numbers steady
  have split := List.take_append_drop stage.arrived.length (t.timeline source).beats
  have seen : Beat.Orderly t.options.tickInterval ((t.timeline source).seen stage) := (split ▸ orderly).of_append
  have among : ∀ time ∈ ((t.timeline source).seen stage).flatMap Beat.readings,
      time ∈ (t.timeline source).readings := by
    intro time member
    obtain ⟨beat, within, read⟩ := List.mem_flatMap.mp member
    have all := List.mem_flatMap.mpr ⟨beat, List.mem_of_mem_take within, read⟩
    exact List.mem_cons_of_mem _ (List.mem_append_left _ all)
  have long : 0 ≤ limit := by
    rw [interval, Binary64.lt, Bool.and_eq_true] at positive
    exact (Binary64.zero_le_iff (x := .finite limit) rfl).mp positive.1
  have reaches := seen.reaches_of_whole interval (fun time member => integers time (among time member))
    fun later later_mem earlier earlier_mem => near later (among later later_mem) earlier (among earlier earlier_mem)
  refine Beat.mul_le_of_apart _ (seen.marks_apart positive reaches long fun beat member => begun beat ?_) ?_
  · exact List.mem_of_mem_take member
  · rw [Beat.marks, List.length_append, List.length_map, List.length_reverse, ← List.countP_eq_length_filter]
    exact Nat.lt_succ_of_le within

/-- While a window has samples, the speed is the number of bytes in them divided by the number of ticks.  It is no more
than the rate at which these bytes have come if and only if the time that the window covers does not exceed that many
seconds, or by no more than rounding makes up for; and no window covers less than that many intervals. -/
theorem run_speed_is_bytes_per_tick (options : TransferOptions) (source : Source) (clock : κ) (terminal : Terminal)
    (blockSize capacity : Nat) (sized : options.chunkSize.positiveInteger? = some blockSize)
    (sampled : options.speedSamples.positiveInteger? = some capacity)
    (fits : (ReadStep.join (source.reads blockSize)).size < 2 ^ 53) :
    let timeline := (opened options source.announced? clock terminal blockSize capacity).timeline source
    let snapshots := timeline.stages.map (Stage.snapshot capacity source.announced? timeline.start)
    (∀ listener ∈ options.listener?, (run options source clock terminal).reports.toList = snapshots) ∧
    ∀ stage ∈ timeline.stages, stage.samples capacity ≠ [] →
      let speed := (stage.snapshot capacity source.announced? timeline.start).bytesPerSecond.value
      let bytes := (stage.samples capacity).sum
      let count := (stage.samples capacity).length
      let covered := timeline.covered count stage
      count = min capacity ((timeline.seen stage).countP Beat.completes) ∧
      speed = (bytes / count : Nat) ∧
      (speed * covered ≤ 1000 * bytes ↔ speed * (covered - 1000 * count) ≤ 1000 * (bytes % count : Nat)) ∧
      (Binary64.lt 0 options.tickInterval = true → (∀ time ∈ timeline.readings, time.IsNumber) →
        timeline.readings.Pairwise (fun earlier later => earlier.le later = true) →
        (∀ time ∈ timeline.readings, time.isInteger = true) →
        (∀ later ∈ timeline.readings, ∀ earlier ∈ timeline.readings, later.value - earlier.value < 2 ^ 53) →
        ∀ limit, options.tickInterval = .finite limit → count * limit ≤ covered) := by
  intro timeline snapshots
  refine ⟨fun listener seated => reports_run sized sampled seated source clock terminal, ?_⟩
  intro stage member nonempty speed bytes count covered
  obtain ⟨total, filled⟩ :=
    total_stage_le source (opened options source.announced? clock terminal blockSize capacity) member
  have ticks := Timeline.length_samples member capacity
  have mean : speed = (bytes / count : Nat) := by
    have shown := stage.speed_snapshot capacity filled (total.trans_lt fits) source.announced?
      timeline.start
    rw [if_neg nonempty] at shown
    exact congrArg Binary64.value shown
  refine ⟨ticks, mean, ?_, ?_⟩
  · rw [mean]
    exact mul_div_le_iff bytes count covered
  · intro positive numbers steady integers near limit interval
    exact intervals_le_covered rfl positive numbers steady integers near interval
      (ticks.trans_le (Nat.min_le_right ..))

/-- The ticks come after half a second, two seconds and half a second, and the window holds the last two samples: seven
bytes in two seconds and a half, shown as three bytes per second. -/
theorem run_speed_is_bytes_per_tick_of_stall :
    let options : TransferOptions := ⟨4, 2, 500, none, fun _ => true⟩
    let reads : List ReadStep :=
      [⟨[], .ok ⟨#[1]⟩⟩, ⟨[500], .ok ⟨#[2, 3]⟩⟩, ⟨[2000], .ok ⟨#[4, 5, 6]⟩⟩, ⟨[500], .ok ⟨#[7, 8, 9, 10]⟩⟩]
    let source : Source := ⟨none, fun _ => reads, .works⟩
    let timeline := (opened options none (⟨0, 0⟩ : Stopwatch) (.fresh .healthy) 4 2).timeline source
    ∃ stage ∈ timeline.stages, stage.samples 2 = [4, 3] ∧ timeline.covered 2 stage = 2500 ∧
      (stage.snapshot 2 none timeline.start).bytesPerSecond.value = 3 ∧
      (2 : Nat) * (500 : Nat) ≤ timeline.covered 2 stage := by
  intro options reads source timeline
  obtain ⟨-, windows⟩ := run_speed_is_bytes_per_tick options source (⟨0, 0⟩ : Stopwatch) (.fresh .healthy) 4 2
    (by decide +kernel) (by decide +kernel) (by decide +kernel)
  let stage : Stage := ⟨[⟨1, false⟩, ⟨2, true⟩, ⟨3, true⟩, ⟨4, true⟩], 3000⟩
  have member : stage ∈ timeline.stages := by decide +kernel
  have samples : stage.samples 2 = [4, 3] := by decide +kernel
  obtain ⟨-, mean, -, intervals⟩ := windows stage member (by rw [samples]; decide)
  have interval : (500 : Binary64) = .finite (500 : Nat) := Binary64.ofNat_eq_finite (by decide)
  have room := intervals (by decide +kernel) (by decide +kernel) (by decide +kernel) (by decide +kernel)
    (by decide +kernel) _ interval
  rw [samples] at mean room
  exact ⟨stage, member, samples, by decide +kernel, mean, room⟩

/-- Six bytes come in five seconds, with no tick in between, and are shown as six bytes per second. -/
theorem not_rate_of_every_run :
    ¬ ∀ (options : TransferOptions) (source : Source) (clock : Stopwatch) (terminal : Terminal)
        (blockSize capacity : Nat), options.chunkSize.positiveInteger? = some blockSize →
        options.speedSamples.positiveInteger? = some capacity → Binary64.lt 0 options.tickInterval = true →
        let timeline := (opened options source.announced? clock terminal blockSize capacity).timeline source
        (∀ time ∈ timeline.readings, time.isExactInteger = true) →
        timeline.readings.Pairwise (fun earlier later => earlier.le later = true) →
        ∀ stage ∈ timeline.stages, stage.samples capacity ≠ [] →
          (stage.snapshot capacity source.announced? timeline.start).bytesPerSecond.value *
            timeline.covered (stage.samples capacity).length stage ≤ 1000 * (stage.samples capacity).sum := by
  intro every
  let reads : List ReadStep := [⟨[], .ok ⟨#[97, 98, 99]⟩⟩, ⟨[5000], .ok ⟨#[100, 101, 102]⟩⟩]
  have rate := every ⟨4, 5, 1000, none, fun _ => true⟩ ⟨none, fun _ => reads, .works⟩ ⟨0, 0⟩ (.fresh .healthy) 4 5
    (by decide +kernel) (by decide +kernel) (by decide +kernel) (by decide +kernel) (by decide +kernel)
    ⟨[⟨3, false⟩, ⟨3, true⟩], 5000⟩ (by decide +kernel) (by decide +kernel)
  exact absurd rate (by decide +kernel)

end Transfer
end MeteredDownload
