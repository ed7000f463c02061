import Mathlib.Algebra.BigOperators.Group.List.Basic
import MeteredDownload.Proofs.Course

/-!
# What a transfer has counted

The blocks that arrive are cut into segments, behind each block that completes an interval (`Segments.cut`).  A
transfer in which `arrivals` have arrived keeps the sums of the last completed segments, as many as its window
holds, and the sum of the blocks since (`TransferState.Counts`); the sums that have left the window are counted
in its total all the same.  Every read keeps this up, so it holds whenever a read begins and in the end.
-/
set_option autoImplicit false
namespace MeteredDownload

open Numeric

structure Arrival where
  size : Nat
  completes : Bool
  deriving DecidableEq, Repr

/-- The completed segments in the order in which they were completed, and the blocks since. -/
structure Segments where
  completed : List (List Nat)
  unfinished : List Nat
  deriving DecidableEq, Repr

namespace Segments

def add (s : Segments) (arrival : Arrival) : Segments :=
  if arrival.completes then ⟨s.completed ++ [s.unfinished ++ [arrival.size]], []⟩
  else ⟨s.completed, s.unfinished ++ [arrival.size]⟩

def cut (arrivals : List Arrival) : Segments := arrivals.foldl add ⟨[], []⟩

def sums (s : Segments) : List Nat := s.completed.map List.sum

theorem cut_concat (arrivals : List Arrival) (arrival : Arrival) :
    cut (arrivals ++ [arrival]) = (cut arrivals).add arrival := by
  simp [cut]

theorem cut_of_completes (arrivals : List Arrival) (size : Nat) :
    cut (arrivals ++ [⟨size, true⟩]) =
      ⟨(cut arrivals).completed ++ [(cut arrivals).unfinished ++ [size]], []⟩ := by
  simp [cut_concat, add]

theorem cut_of_more (arrivals : List Arrival) (size : Nat) :
    cut (arrivals ++ [⟨size, false⟩]) = ⟨(cut arrivals).completed, (cut arrivals).unfinished ++ [size]⟩ := by
  simp [cut_concat, add]

theorem flatten_cut (arrivals : List Arrival) :
    (cut arrivals).completed.flatten ++ (cut arrivals).unfinished = arrivals.map Arrival.size := by
  induction arrivals using List.reverseRecOn with
  | nil => rfl
  | append_singleton arrivals arrival ih =>
    rw [cut_concat, List.map_append, ← ih, add]
    split <;> simp

theorem sum_cut (arrivals : List Arrival) :
    (cut arrivals).sums.sum + (cut arrivals).unfinished.sum = (arrivals.map Arrival.size).sum := by
  rw [← flatten_cut, List.sum_append, List.sum_flatten]
  rfl

end Segments

/-- The counts of a transfer to which these blocks have come, with a window for `capacity` sums. -/
structure TransferState.Counts (capacity : Nat) (arrivals : List Arrival) (s : TransferState) : Prop where
  total : s.total = (arrivals.map Arrival.size).sum
  samples : s.samples = (Segments.cut arrivals).sums.reverse.take capacity
  pending : s.pending = (Segments.cut arrivals).unfinished.sum
  /-- No byte is lost, not even those of the segments that have left the window. -/
  balance : s.total = (Segments.cut arrivals).sums.sum + s.pending
  clock : s.lastTick? = none ↔ s.total = 0

namespace SpeedWindow

theorem samples_commit {w : SpeedWindow Nat} {sums : List Nat} (room : 0 < w.capacity)
    (last : w.samples = sums.take w.capacity) : w.commit.samples = (w.pending :: sums).take w.capacity := by
  obtain ⟨less, capacity⟩ := Nat.exists_eq_add_of_lt room
  have kept : (if w.samples.length = w.capacity then w.samples.dropLast else w.samples) = sums.take less := by
    split
    · next full =>
      rw [List.dropLast_eq_take, full, last, List.take_take, capacity]
      congr 1
      omega
    · next other =>
      rw [last, List.length_take] at other
      rw [last, List.take_of_length_le (by omega), List.take_of_length_le (by omega)]
  show w.pending :: _ = _
  rw [kept, capacity]
  simp

end SpeedWindow

namespace Transfer
variable {κ : Type} [Clock κ]

def isDue (t : Transfer κ) : Bool := t.options.tickInterval.le (t.now.1 - t.lastTick?.getD t.now.1)

def arrival (step : ReadStep) (t : Transfer κ) : List Arrival :=
  match step.outcome with
  | .error _ => []
  | .ok bytes => if bytes.isEmpty then [] else [⟨bytes.size, (t.awaited step).isDue⟩]

def arrivals (t : Transfer κ) : List ReadStep → List Arrival
  | [] => []
  | step :: rest => t.arrival step ++ (t.after step).arrivals rest

theorem arrivals_append (made rest : List ReadStep) (t : Transfer κ) :
    t.arrivals (made ++ rest) = t.arrivals made ++ (t.afterAll made).arrivals rest := by
  induction made generalizing t with
  | nil => rfl
  | cons first made ih => simp [arrivals, afterAll, ih]

theorem sum_arrival (step : ReadStep) (t : Transfer κ) :
    ((t.arrival step).map Arrival.size).sum = step.bytes.size := by
  cases outcome : step.outcome with
  | error reason => simp [arrival, ReadStep.bytes, outcome]
  | ok bytes =>
    by_cases nothing : bytes.isEmpty = true
    · have none : bytes.size = 0 := by simpa [ByteArray.isEmpty] using nothing
      simp [arrival, ReadStep.bytes, outcome, nothing, none]
    · simp [arrival, ReadStep.bytes, outcome, nothing]

theorem sum_arrivals (steps : List ReadStep) (t : Transfer κ) :
    ((t.arrivals steps).map Arrival.size).sum = (ReadStep.join steps).size := by
  induction steps generalizing t with
  | nil => rfl
  | cons step rest ih =>
    rw [arrivals, List.map_append, List.sum_append, sum_arrival, ih, ReadStep.join, ByteArray.size_append]

/-! ## What the steps of a transfer count -/

def counted (count : Nat) (t : Transfer κ) : Transfer κ :=
  { t.now.2 with total := t.total + count, window := t.window.record count,
                 lastTick? := some (t.lastTick?.getD t.now.1) }

theorem receive_eq (count : Nat) (t : Transfer κ) :
    t.receive count = if t.isDue then (t.counted count).tick else (t.counted count, none) :=
  rfl

theorem arrival_of_stop {step : ReadStep} (stop : step.goesOn = false) (t : Transfer κ) : t.arrival step = [] := by
  cases outcome : step.outcome with
  | error reason => simp [arrival, outcome]
  | ok bytes => simpa [arrival, ReadStep.goesOn, outcome] using stop

theorem report_fst (t : Transfer κ) : ∃ display reports, t.report.1 = { t with display, reports } := by
  unfold report
  dsimp only
  split
  · exact ⟨_, _, rfl⟩
  · exact ⟨_, _, rfl⟩

theorem complete_fst (interrupts : Nat) (t : Transfer κ) :
    ∃ display reports, (t.complete interrupts).1 = { t with display, reports } := by
  obtain ⟨display, reports, same⟩ := t.report_fst
  unfold complete
  split
  · next u objection result =>
    rw [result] at same
    exact ⟨display, reports, same⟩
  · next u result =>
    rw [result] at same
    obtain rfl : u = { t with display, reports } := same
    exact ⟨_, reports, rfl⟩

theorem tick_fst (t : Transfer κ) :
    ∃ display reports lastTick?, t.tick.1 = { t with window := t.window.commit, display, reports, lastTick? } ∧
      (t.lastTick? ≠ none → lastTick? ≠ none) := by
  obtain ⟨display, reports, same⟩ := report_fst { t with window := t.window.commit }
  unfold tick
  split
  · next u objection result =>
    rw [result] at same
    exact ⟨display, reports, t.lastTick?, same, id⟩
  · next u result =>
    rw [result] at same
    obtain rfl : u = { t with window := t.window.commit, display, reports } := same
    exact ⟨_, reports, some _, rfl, fun _ => nofun⟩

/-! ## The counts of a run -/

section Counts
variable {t : Transfer κ} {capacity count : Nat} {made : List Arrival}

theorem counts_of {s : TransferState} (total : s.total = (made.map Arrival.size).sum)
    (samples : s.samples = (Segments.cut made).sums.reverse.take capacity)
    (pending : s.pending = (Segments.cut made).unfinished.sum) (clock : s.lastTick? = none ↔ s.total = 0) :
    s.Counts capacity made := by
  refine ⟨total, samples, pending, ?_, clock⟩
  rw [total, pending, Segments.sum_cut]

theorem counts_opened (options : TransferOptions) (announced? : Option Binary64) (clock : κ) (terminal : Terminal)
    (blockSize capacity : Nat) :
    (opened options announced? clock terminal blockSize capacity).state.Counts capacity [] :=
  counts_of rfl List.take_nil.symm rfl (iff_of_true rfl rfl)

omit [Clock κ] in
theorem counts_onDisplay (change : Display κ → Display κ) (counts : t.state.Counts capacity made) :
    (t.onDisplay change).state.Counts capacity made :=
  counts_of counts.total counts.samples counts.pending counts.clock

theorem counts_wait (delays : List Binary64) (counts : t.state.Counts capacity made) :
    (t.wait delays).state.Counts capacity made :=
  counts_of counts.total counts.samples counts.pending counts.clock

theorem counts_awaited (step : ReadStep) (counts : t.state.Counts capacity made) :
    (t.awaited step).state.Counts capacity made :=
  counts_onDisplay Display.pause (counts_wait step.delays counts)

theorem counts_tick (room : 0 < capacity) (holds : t.window.capacity = capacity)
    (counts : t.state.Counts capacity made) (filled : 0 < count) :
    (t.counted count).tick.1.state.Counts capacity (made ++ [⟨count, true⟩]) ∧
      (t.counted count).tick.1.window.capacity = capacity := by
  obtain ⟨display, reports, lastTick?, same, running⟩ := (t.counted count).tick_fst
  have started : lastTick? ≠ none := running nofun
  have total : t.total = (made.map Arrival.size).sum := counts.total
  have pending : t.window.pending = (Segments.cut made).unfinished.sum := counts.pending
  have samples : (t.window.record count).samples =
      (Segments.cut made).sums.reverse.take (t.window.record count).capacity := by
    show t.window.samples = List.take t.window.capacity _
    rw [holds]
    exact counts.samples
  rw [same]
  refine ⟨counts_of ?_ ?_ ?_ ?_, holds⟩
  · show t.total + count = _
    simp [total]
  · have capacity_pos : 0 < (t.window.record count).capacity := by rwa [← holds] at room
    have committed := SpeedWindow.samples_commit capacity_pos samples
    show (t.window.record count).commit.samples = _
    rw [committed, Segments.cut_of_completes]
    simp [Segments.sums, SpeedWindow.record, pending, holds]
  · rw [Segments.cut_of_completes]
    rfl
  · show lastTick? = none ↔ t.total + count = 0
    constructor
    · intro stopped
      exact absurd stopped started
    · intro nothing
      omega

theorem counts_counted (counts : t.state.Counts capacity made) (filled : 0 < count) :
    (t.counted count).state.Counts capacity (made ++ [⟨count, false⟩]) := by
  have total : t.total = (made.map Arrival.size).sum := counts.total
  have samples : t.window.samples = (Segments.cut made).sums.reverse.take capacity := counts.samples
  have pending : t.window.pending = (Segments.cut made).unfinished.sum := counts.pending
  refine counts_of ?_ ?_ ?_ ?_
  · show t.total + count = _
    simp [total]
  · rw [Segments.cut_of_more]
    exact samples
  · show t.window.pending + count = _
    rw [Segments.cut_of_more, pending]
    simp
  · show some _ = none ↔ t.total + count = 0
    constructor
    · intro stopped
      cases stopped
    · intro nothing
      omega

theorem counts_receive (room : 0 < capacity) (holds : t.window.capacity = capacity)
    (counts : t.state.Counts capacity made) (filled : 0 < count) :
    (t.receive count).1.state.Counts capacity (made ++ [⟨count, t.isDue⟩]) ∧
      (t.receive count).1.window.capacity = capacity := by
  rw [receive_eq]
  cases due : t.isDue with
  | true => exact counts_tick room holds counts filled
  | false => exact ⟨counts_counted counts filled, holds⟩

/-- The account is kept with every read, whatever it gives. -/
theorem counts_after (room : 0 < capacity) (holds : t.window.capacity = capacity)
    (counts : t.state.Counts capacity made) {step : ReadStep} (on : step.goesOn = true) :
    (t.after step).state.Counts capacity (made ++ t.arrival step) ∧
      (t.after step).window.capacity = capacity := by
  cases outcome : step.outcome with
  | error reason =>
    simp only [after, arrival, outcome, List.append_nil]
    exact ⟨counts_wait step.delays counts, holds⟩
  | ok bytes =>
    have filled := ReadStep.isEmpty_of_goesOn on outcome
    simp only [after, arrival, outcome, filled, Bool.false_eq_true, if_false]
    exact counts_receive room holds (counts_awaited step counts) (size_pos_of_isEmpty_eq_false filled)

theorem counts_conclude (counts : t.state.Counts capacity made) (interrupts : Nat) (store : Store)
    (visits : Array TransferState) :
    (t.conclude interrupts store visits).transfer.state.Counts capacity made := by
  obtain ⟨display, reports, completed⟩ := t.complete_fst interrupts
  rw [transfer_conclude, completed]
  exact counts_of counts.total counts.samples counts.pending counts.clock

theorem counts_ends (room : 0 < capacity) (holds : t.window.capacity = capacity)
    (counts : t.state.Counts capacity made) {rest : List ReadStep} {reading : Reading κ}
    (ends : t.Ends rest reading) :
    reading.transfer.state.Counts capacity (made ++ t.arrivals (rest.take 1)) := by
  cases ends with
  | spent =>
    simp only [List.take_nil, arrivals, List.append_nil]
    exact counts_conclude (counts_onDisplay Display.pause counts) ..
  | @whole step rest _ _ _ last =>
    have nothing := arrival_of_stop (ReadStep.goesOn_of_isEnd last) t
    simp only [List.take_succ_cons, List.take_zero, arrivals, nothing, List.append_nil]
    exact counts_conclude (counts_awaited step counts) ..
  | @failed step reason rest _ failed final =>
    have nothing := arrival_of_stop (ReadStep.goesOn_of_failed failed final) t
    simp only [List.take_succ_cons, List.take_zero, arrivals, nothing, List.append_nil]
    exact counts_onDisplay _ (counts_awaited step counts)
  | @opposed step objection rest _ on _ =>
    simp only [List.take_succ_cons, List.take_zero, arrivals, List.append_nil]
    exact (counts_after room holds counts on).1

theorem counts_download (source : Source) (counts : (t.reading source).transfer.state.Counts capacity made) :
    ∃ final, (t.download source).final? = some final ∧ final.Counts capacity made := by
  refine ⟨_, rfl, ?_⟩
  have kept : ∀ u : Transfer κ, u.state.Counts capacity made →
      (closeSource source.closing (u.onDisplay Display.close)).1.state.Counts capacity made := by
    intro u counts
    cases source.closing with
    | absent => exact counts_onDisplay _ counts
    | works => exact counts_onDisplay _ counts
    | fails reason => exact counts_onDisplay _ (counts_onDisplay _ counts)
  exact kept _ counts

theorem counts_goes (room : 0 < capacity) (holds : t.window.capacity = capacity)
    (fresh : t.state.Counts capacity []) {reads : List ReadStep} (goes : t.Goes reads) :
    (t.afterAll reads).state.Counts capacity (t.arrivals reads) ∧
      (t.afterAll reads).window.capacity = capacity := by
  refine goes.keeps (fun reads u => u.state.Counts capacity (t.arrivals reads) ∧
    u.window.capacity = capacity) ⟨fresh, holds⟩ ?_
  intro reads step before on _
  rw [arrivals_append, arrivals, arrivals, List.append_nil]
  exact counts_after room before.2 before.1 on

end Counts

theorem counts_states {t : Transfer κ} {capacity : Nat} (room : 0 < capacity)
    (holds : t.window.capacity = capacity) (fresh : t.state.Counts capacity []) (source : Source) :
    ∃ final, (t.download source).final? = some final ∧
      ∀ k (within : k < ((t.download source).visits.toList ++ [final]).length),
        ((t.download source).visits.toList ++ [final])[k].Counts capacity
          (t.arrivals ((source.reads t.blockSize).take k)) := by
  have visited : (t.download source).visits = (t.reading source).visits := rfl
  rcases t.reading_course source with ⟨failure, refused⟩ | ⟨made, rest, course⟩
  · have unread : (t.reading source).visits = #[] := by rw [refused]
    have start : (t.reading source).transfer.state.Counts capacity [] := by rwa [refused]
    obtain ⟨final, ended, counts⟩ := counts_download source start
    refine ⟨final, ended, ?_⟩
    intro k within
    rw [visited, unread] at within
    have first : k = 0 := by simpa using within
    subst first
    simpa [visited, unread, arrivals] using counts
  · obtain ⟨goes, holding⟩ := counts_goes room holds fresh course.goes
    obtain ⟨final, ended, counts⟩ := counts_download source (counts_ends room holding goes course.ends)
    refine ⟨final, ended, ?_⟩
    intro k within
    have stations : (t.download source).visits.toList = t.stations made := by
      rw [visited, course.visits]
      rfl
    rw [course.parts]
    -- A read that was made finds the state behind those before it; behind all of them stands the final state.
    by_cases begins : k ≤ made.length
    · have station : ((t.download source).visits.toList ++ [final])[k] = (t.afterAll (made.take k)).state := by
        simp only [stations, Transfer.stations]
        rw [List.getElem_append_left (by simp; omega)]
        simp
      rw [station, List.take_append_of_le_length begins]
      exact (counts_goes room holds fresh (course.goes.of_prefix (List.take_prefix k made))).1
    · have last : k = made.length + 1 := by
        rw [List.length_append, stations, length_stations, List.length_singleton] at within
        omega
      subst last
      have station : ((t.download source).visits.toList ++ [final])[made.length + 1] = final := by
        simp [stations, Transfer.stations]
      rw [station, List.take_length_add_append, arrivals_append]
      exact counts

end Transfer

def TransferResult.states {κ : Type} (result : TransferResult κ) : List TransferState :=
  result.visits.toList ++ result.final?.toList

theorem ReadStep.size_join_take_le (steps : List ReadStep) {i j : Nat} (before : i ≤ j) :
    (join (steps.take i)).size ≤ (join (steps.take j)).size := by
  induction steps generalizing i j with
  | nil => simp
  | cons step rest ih =>
    cases i with
    | zero => simp [join]
    | succ i =>
      obtain ⟨j, rfl⟩ := Nat.exists_eq_add_of_le' (Nat.lt_of_lt_of_le i.succ_pos before)
      have less := ih (Nat.le_of_succ_le_succ before)
      simp only [List.take_succ_cons, join, ByteArray.size_append]
      omega

namespace Transfer
variable {κ : Type} [Clock κ]

/-- At the start of every read and in the end, whatever the end is, a transfer has counted all blocks that have
arrived, segment by segment, and it has counted their bytes; so its total never falls. -/
theorem run_counts_arrivals (options : TransferOptions) (source : Source) (clock : κ) (terminal : Terminal)
    (blockSize capacity : Nat) (sized : options.chunkSize.positiveInteger? = some blockSize)
    (sampled : options.speedSamples.positiveInteger? = some capacity) :
    let begun := opened options source.announced? clock terminal blockSize capacity
    let reads := source.reads blockSize
    let result := run options source clock terminal
    result.states.length = result.visits.size + 1 ∧
    (∀ k (within : k < result.states.length),
      result.states[k].Counts capacity (begun.arrivals (reads.take k)) ∧
      result.states[k].total = (ReadStep.join (reads.take k)).size) ∧
    result.states.Pairwise fun earlier later => earlier.total ≤ later.total := by
  intro begun reads result
  have room := (Binary64.eq_finite_of_positiveInteger? sampled).2
  have same : result = begun.download source := run_of_sound sized sampled source clock terminal
  have fresh : begun.state.Counts capacity [] :=
    counts_of rfl List.take_nil.symm rfl (iff_of_true rfl rfl)
  obtain ⟨final, ended, counts⟩ := counts_states room (rfl : begun.window.capacity = capacity) fresh source
  have states : result.states = (begun.download source).visits.toList ++ [final] := by
    rw [TransferResult.states, same, ended]
    rfl
  have totals : ∀ k (within : k < result.states.length),
      result.states[k].Counts capacity (begun.arrivals (reads.take k)) ∧
      result.states[k].total = (ReadStep.join (reads.take k)).size := by
    intro k within
    have now : result.states[k].Counts capacity (begun.arrivals (reads.take k)) := by
      simp only [states] at within ⊢
      exact counts k within
    exact ⟨now, now.total.trans (sum_arrivals ..)⟩
  refine ⟨?_, totals, ?_⟩
  · rw [states, same]
    simp
  · rw [List.pairwise_iff_getElem]
    intro i j earlier later before
    rw [(totals i earlier).2, (totals j later).2]
    exact ReadStep.size_join_take_le reads before.le

/-- Three blocks complete an interval each, and the window holds two sums.  The bytes of the first segment are in
the total still, and those of the last block wait for the next tick. -/
theorem run_counts_arrivals_of_eviction :
    let options : TransferOptions := ⟨4, 2, 5, none, fun _ => true⟩
    let again : Value := .error (.raised .error "" none (.text "EINTR"))
    let reads : List ReadStep :=
      [⟨[], .ok ⟨#[1, 2, 3]⟩⟩, ⟨[9], .ok ⟨#[4]⟩⟩, ⟨[9], .error again⟩, ⟨[9], .ok ⟨#[5, 6]⟩⟩,
        ⟨[9], .ok ⟨#[7, 8, 9, 10]⟩⟩, ⟨[], .ok ⟨#[11]⟩⟩]
    let source : Source := ⟨none, fun _ => reads, .works⟩
    let clock : Stopwatch := ⟨0, 0⟩
    let begun := opened options none clock (.fresh .healthy) 4 2
    let result := run options source clock (.fresh .healthy)
    begun.arrivals reads = [⟨3, false⟩, ⟨1, true⟩, ⟨2, true⟩, ⟨4, true⟩, ⟨1, false⟩] ∧
    ∃ last : 7 < result.states.length, result.states[7].total = 11 ∧ result.states[7].samples = [4, 2] ∧
      result.states[7].pending = 1 ∧ result.states[7].lastTick? ≠ none := by
  intro options again reads source clock begun result
  obtain ⟨length, counts, _⟩ := run_counts_arrivals options source clock (.fresh .healthy) 4 2
    (by decide +kernel) (by decide +kernel)
  have arrivals : begun.arrivals reads = [⟨3, false⟩, ⟨1, true⟩, ⟨2, true⟩, ⟨4, true⟩, ⟨1, false⟩] := by
    decide +kernel
  have visited : result.visits.size = 7 := by decide +kernel
  have last : 7 < result.states.length := by
    rw [length, visited]
    exact Nat.lt_succ_self 7
  have now : result.states[7].Counts 2 [⟨3, false⟩, ⟨1, true⟩, ⟨2, true⟩, ⟨4, true⟩, ⟨1, false⟩] := by
    rw [← arrivals]
    exact (counts 7 last).1
  have total : result.states[7].total = 11 := now.total
  refine ⟨arrivals, last, total, now.samples, now.pending, ?_⟩
  intro stopped
  have nothing := now.clock.mp stopped
  rw [total] at nothing
  cases nothing

end Transfer
end MeteredDownload
