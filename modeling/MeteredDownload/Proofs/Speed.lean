import Mathlib.Algebra.Order.BigOperators.Group.List
import MeteredDownload.Proofs.Exactness
import MeteredDownload.Proofs.Stages

/-!
# The speed of a stage

The samples of a window are byte counts, so their sum and the whole part of their mean are exact as long as less than
`2 ^ 53` bytes have come.  Each sample has at least one byte, so there are no more samples than bytes.  What a stage
shows as its speed is therefore the mean of the last segments of the blocks that have arrived (`Stage.speed_snapshot`).
-/
set_option autoImplicit false
namespace MeteredDownload

open Numeric Report

namespace SpeedWindow
variable {w : SpeedWindow Nat}

theorem sum_eq (small : w.samples.sum < 2 ^ 53) : w.sum = .finite w.samples.sum := by
  have running : ∀ (counted : Nat) (samples : List Nat), counted + samples.sum < 2 ^ 53 →
      samples.foldl (fun total sample => total + Amount.toBinary64 sample) (Binary64.finite counted) =
        .finite (counted + samples.sum : Nat) := by
    intro counted samples
    induction samples generalizing counted with
    | nil => exact fun _ => rfl
    | cons sample rest ih =>
      intro within
      rw [List.sum_cons] at within ⊢
      have own : Amount.toBinary64 sample = .finite sample := Binary64.ofNat_eq_finite (by omega)
      rw [List.foldl_cons, own, Binary64.natCast_add (by omega), ih _ (by omega), Nat.add_assoc]
  have total := running 0 w.samples (by omega)
  rw [Nat.zero_add] at total
  rw [SpeedWindow.sum, ← total, Nat.cast_zero, Binary64.zero_eq_finite]

theorem speed_of_isEmpty (empty : w.samples = []) (announced? : Option Binary64) :
    w.speed announced? = announced?.getD 0 := by
  rw [speed, empty]
  rfl

theorem speed_eq (sampled : w.samples ≠ []) (small : w.samples.sum < 2 ^ 53) (few : w.samples.length < 2 ^ 53)
    (announced? : Option Binary64) :
    w.speed announced? = .finite (w.samples.sum / w.samples.length : Nat) := by
  have some : w.samples.isEmpty = false := by simpa using sampled
  have length : 0 < w.samples.length := List.length_pos_iff.mpr sampled
  rw [speed, some, sum_eq small, Binary64.ofNat_eq_finite few]
  exact Binary64.floor_natCast_div small length few

end SpeedWindow

/-! ## Samples of the blocks that have arrived -/

theorem Segments.sums_pos {arrivals : List Arrival} (filled : ∀ arrival ∈ arrivals, 0 < arrival.size) :
    ∀ sum ∈ (cut arrivals).sums, 0 < sum := by
  induction arrivals using List.reverseRecOn with
  | nil => exact fun _ member => absurd member List.not_mem_nil
  | append_singleton arrivals arrival ih =>
    obtain ⟨earlier, last⟩ := List.forall_mem_append.mp filled
    have before := ih earlier
    obtain ⟨size, completes⟩ := arrival
    have block : 0 < size := last _ List.mem_cons_self
    cases completes with
    | false =>
      rw [cut_of_more]
      exact before
    | true =>
      rw [cut_of_completes, sums, List.map_append]
      refine List.forall_mem_append.mpr ⟨before, ?_⟩
      intro sum member
      obtain rfl : sum = (cut arrivals).unfinished.sum + size := by simpa using member
      omega

namespace Stage
variable {stage : Stage} (capacity : Nat)

def samples (capacity : Nat) (stage : Stage) : List Nat := (Segments.cut stage.arrived).sums.reverse.take capacity

theorem sum_samples_le (stage : Stage) : (stage.samples capacity).sum ≤ stage.total := by
  calc (stage.samples capacity).sum
      ≤ (Segments.cut stage.arrived).sums.reverse.sum := (List.take_sublist ..).sum_le_sum (fun _ _ => Nat.zero_le _)
    _ = (Segments.cut stage.arrived).sums.sum := List.sum_reverse _
    _ ≤ stage.total := by
      rw [total, ← Segments.sum_cut]
      exact Nat.le_add_right ..

theorem length_samples_le (filled : ∀ arrival ∈ stage.arrived, 0 < arrival.size) :
    (stage.samples capacity).length ≤ (stage.samples capacity).sum := by
  refine List.length_le_sum_of_one_le _ ?_
  intro sample member
  exact Segments.sums_pos filled sample (List.mem_reverse.mp (List.mem_of_mem_take member))

theorem speed_snapshot (filled : ∀ arrival ∈ stage.arrived, 0 < arrival.size) (fits : stage.total < 2 ^ 53)
    (announced? : Option Binary64) (start : Binary64) :
    (stage.snapshot capacity announced? start).bytesPerSecond =
      if stage.samples capacity = [] then announced?.getD 0
      else .finite ((stage.samples capacity).sum / (stage.samples capacity).length : Nat) := by
  have sum := (stage.sum_samples_le capacity).trans_lt fits
  have length := (length_samples_le capacity filled).trans_lt sum
  show SpeedWindow.speed announced? ⟨capacity, stage.samples capacity, 0⟩ = _
  split
  · next empty => exact SpeedWindow.speed_of_isEmpty empty announced?
  · next sampled => exact SpeedWindow.speed_eq sampled sum length announced?

end Stage

/-! ## Stages of a transfer -/

theorem Timeline.arrived_of_mem_stages {timeline : Timeline} {stage : Stage} (member : stage ∈ timeline.stages) :
    stage.arrived <+: timeline.arrived := by
  rcases List.mem_append.mp member with ticked | last
  · exact (Beat.mem_stages ticked).2
  · obtain ⟨time, -, rfl⟩ : ∃ time, timeline.last? = some time ∧ (⟨timeline.arrived, time⟩ : Stage) = stage := by
      simpa using last
    exact List.prefix_rfl

namespace Transfer
variable {κ : Type} [Clock κ]

theorem size_pos_of_mem_arrivals (steps : List ReadStep) (t : Transfer κ) :
    ∀ arrival ∈ t.arrivals steps, 0 < arrival.size := by
  induction steps generalizing t with
  | nil => exact fun _ member => absurd member List.not_mem_nil
  | cons step rest ih =>
    refine List.forall_mem_append.mpr ⟨?_, ih _⟩
    intro arrival member
    unfold Transfer.arrival at member
    split at member
    · cases member
    split at member
    · cases member
    · next filled =>
      obtain rfl := List.mem_singleton.mp member
      exact size_pos_of_isEmpty_eq_false (Bool.eq_false_iff.mpr filled)

theorem total_stage_le (source : Source) (t : Transfer κ) {stage : Stage}
    (member : stage ∈ (t.timeline source).stages) :
    stage.total ≤ (ReadStep.join (source.reads t.blockSize)).size ∧ ∀ arrival ∈ stage.arrived, 0 < arrival.size := by
  have arrived := Timeline.arrived_of_mem_stages member
  rw [arrived_timeline] at arrived
  refine ⟨?_, fun arrival within => size_pos_of_mem_arrivals _ t arrival (arrived.subset within)⟩
  calc stage.total
      ≤ ((t.arrivals ((source.reads t.blockSize).take (t.reading source).visits.size)).map Arrival.size).sum :=
        (arrived.sublist.map _).sum_le_sum (fun _ _ => Nat.zero_le _)
    _ = (ReadStep.join ((source.reads t.blockSize).take (t.reading source).visits.size)).size := sum_arrivals ..
    _ ≤ (ReadStep.join (source.reads t.blockSize)).size := by
      have all := ReadStep.size_join_take_le (source.reads t.blockSize)
        (Nat.le_max_left (t.reading source).visits.size (source.reads t.blockSize).length)
      rwa [List.take_of_length_le (Nat.le_max_right ..)] at all

end Transfer
end MeteredDownload
