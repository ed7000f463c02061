import MeteredDownload.Proofs.Legible
import MeteredDownload.Proofs.Output
import MeteredDownload.Proofs.Speed

/-!
# The numbers that a transfer shows

A snapshot shows a speed, and where the length of the body is known also a share and the seconds that are left.  None
of them goes wrong (`Snapshot.Sound`), whatever has been announced and however much has come, nothing or too much, and
be the clock set back meanwhile.  Every division is by a number that is not zero, and the seconds left are those after
which the rest has come at this speed, to the second.
-/
set_option autoImplicit false
namespace MeteredDownload

open Numeric Report Text

namespace Report.Snapshot
open Binary64

def missing (total : Binary64) (s : Snapshot) : Rat := max (total.value - s.bytesDownloaded.value) 0

structure Sound (s : Snapshot) : Prop where
  speed : s.bytesPerSecond.isInteger = true ∧ 0 ≤ s.bytesPerSecond.value
  share : ∀ total ∈ s.totalBytes?, ∃ percent ∈ s.percent?,
    percent.isFinite = true ∧ 0 ≤ percent.value ∧ (total.value = 0 → percent = 100)
  left : ∀ total ∈ s.totalBytes?, ∃ left ∈ s.secondsLeft?, left.isInteger = true ∧ 0 ≤ left.value ∧
    (s.bytesPerSecond.value = 0 ∨ total.value ≤ s.bytesDownloaded.value → left.value = 0) ∧
    (s.bytesPerSecond.value ≠ 0 → left.value * s.bytesPerSecond.value ≤ s.missing total ∧
      s.missing total < (left.value + 1) * s.bytesPerSecond.value)

section Numbers
variable {downloaded total speed : Binary64} {d t s : Nat}

theorem hundred_eq_finite : (100 : Binary64) = finite (100 : Nat) := ofNat_eq_finite (by decide)

theorem mul_hundred_bounds {x : Binary64} (number : x.isFinite = true) (least : 0 ≤ x.value) (most : x.value ≤ 2 ^ 53) :
    (x * 100).isFinite = true ∧ 0 ≤ (x * 100).value ∧ (x * 100).value ≤ 10 ^ 20 := by
  cases x with
  | nan => cases number
  | infinity => cases number
  | negativeZero => exact ⟨by decide +kernel, by decide +kernel, by decide +kernel⟩
  | finite q =>
    have nonneg : 0 ≤ q := least
    have product : 0 ≤ q * (100 : Nat) := by positivity
    have unsigned : ((finite q).isNegative != (finite (100 : Nat)).isNegative) = false := by
      norm_num [isNegative, not_lt.mpr nonneg]
    -- Rounding keeps the order, and the largest product is on the grid.
    have rounded : nearest (q * (100 : Nat)) ≤ 2 ^ 53 * 100 := by
      have largest : nearest (2 ^ 53 * (100 : Nat)) = 2 ^ 53 * 100 := by decide +kernel
      rw [← largest]
      exact nearest_mono product (mul_le_mul_of_nonneg_right most (by positivity))
    have exact : finite q * 100 = ofSigned false (q * (100 : Nat)) := by
      rw [hundred_eq_finite, ← unsigned]
      rfl
    rw [exact, ofSigned]
    split_ifs
    · exact ⟨rfl, le_rfl, by decide +kernel⟩
    · rw [ofRat_of_lt product (lt_of_le_of_lt rounded (by decide +kernel))]
      exact ⟨rfl, nearest_nonneg product, rounded.trans (by norm_num)⟩

theorem percentOf_bounds (arrived : downloaded.IsWhole d) (announced : total.IsWhole t) (some : d < 2 ^ 53)
    (all : t < 2 ^ 53) :
    (percentOf downloaded total).isFinite = true ∧ 0 ≤ (percentOf downloaded total).value ∧
      (percentOf downloaded total).value ≤ 10 ^ 20 ∧ (t = 0 → percentOf downloaded total = 100) := by
  have order : Binary64.lt 0 total = decide (0 < t) := by simpa using announced.zero_lt
  rw [percentOf, order]
  rcases Nat.eq_zero_or_pos t with rfl | positive
  · rw [if_neg (by decide)]
    exact ⟨by decide +kernel, by decide +kernel, by decide +kernel, fun _ => rfl⟩
  · have divisor : total = finite t := announced.eq_finite (by omega)
    obtain ⟨number, least, most⟩ := arrived.div_bounds some positive all
    have quotient : (d : Rat) ≤ 2 ^ 53 := by exact_mod_cast some.le
    obtain ⟨finite, nonneg, bounded⟩ := mul_hundred_bounds number least (most.trans quotient)
    rw [if_pos (decide_eq_true positive), divisor]
    exact ⟨finite, nonneg, bounded, fun zero => absurd zero positive.ne'⟩

theorem secondsFor_eq (arrived : downloaded.IsWhole d) (announced : total.IsWhole t) (rate : speed.IsWhole s)
    (some : d < 2 ^ 53) (all : t < 2 ^ 53) (fast : s < 2 ^ 53) :
    secondsFor downloaded total speed = finite ((t - d) / s : Nat) := by
  have difference : (total - downloaded).IsWhole (t - d : Int) :=
    announced.sub arrived (by omega) (by omega) (by omega)
  have remaining : Binary64.max (total - downloaded) 0 = finite (t - d : Nat) := by
    rw [difference.max_zero.1, Int.toNat_sub]
  have zero : speed.isZero = decide (s = 0) := by simpa using rate.isZero
  rw [secondsFor]
  simp only [remaining, zero]
  rcases Nat.eq_zero_or_pos s with rfl | positive
  · rw [Nat.div_zero, Nat.cast_zero, ← zero_eq_finite]
    rfl
  · have divisor : speed = finite s := rate.eq_finite (by omega)
    rw [if_neg (by simpa using positive.ne'), divisor]
    exact floor_natCast_div (by omega) positive fast

theorem max_value_sub (arrived : downloaded.IsWhole d) (announced : total.IsWhole t) :
    max (total.value - downloaded.value) 0 = (t - d : Nat) := by
  rw [announced.value, arrived.value, Int.cast_natCast, Int.cast_natCast]
  rcases Nat.le_total t d with here | short
  · have excess : (t : Rat) - d ≤ 0 := sub_nonpos.mpr (by exact_mod_cast here)
    rw [max_eq_right excess, Nat.sub_eq_zero_of_le here, Nat.cast_zero]
  · have rest : 0 ≤ (t : Rat) - d := sub_nonneg.mpr (by exact_mod_cast short)
    rw [max_eq_left rest, Nat.cast_sub short]

theorem elapsed_isWhole {time start : Binary64} {a b : Int} (now : time.IsWhole a) (begun : start.IsWhole b)
    (first : a.natAbs < 2 ^ 53) (second : b.natAbs < 2 ^ 53) (near : (a - b).natAbs < 2 ^ 53) :
    ∃ z : Int, ((time - start) / 1000).floor.IsWhole z ∧ z < 2 ^ 53 := by
  have thousand : (1000 : Binary64) = finite (1000 : Nat) := ofNat_eq_finite (by decide)
  have difference := now.sub begun first second near
  have bounds : ((time - start) / 1000).isFinite = true ∧ ((time - start) / 1000).value < 2 ^ 53 := by
    rw [thousand]
    -- The quotient is no more than the dividend, and no more than zero where the dividend is below zero.
    obtain ⟨n, same | same⟩ := (a - b).eq_nat_or_neg
    · rw [same] at difference
      obtain ⟨number, -, most⟩ := difference.div_bounds (n := 1000) (by omega) (by decide) (by decide)
      exact ⟨number, most.trans_lt (by exact_mod_cast (by omega : n < 2 ^ 53))⟩
    · rcases Nat.eq_zero_or_pos n with rfl | negative
      · have nothing : (time - start).IsWhole (0 : Nat) := by simpa [same] using difference
        obtain ⟨number, -, most⟩ := nothing.div_bounds (n := 1000) (by decide) (by decide) (by decide)
        exact ⟨number, most.trans_lt (by norm_num)⟩
      · have below : time - start = finite (-n) := by
          rw [difference.eq_finite (by omega), same]
          push_cast
          rfl
        obtain ⟨number, most⟩ := neg_div_bounds (m := n) (n := 1000) (by omega) (by decide) (by decide) negative
        rw [below]
        exact ⟨number, most.trans_lt (by norm_num)⟩
  refine ⟨_, isWhole_floor bounds.1, ?_⟩
  have floor := (Rat.floor_le ((time - start) / 1000).value).trans_lt bounds.2
  exact_mod_cast floor

end Numbers

/-! ## Described snapshots -/

/-- What a snapshot is described with: whole numbers, and a time as far from the start as it may be from zero. -/
structure Described (downloaded : Binary64) (total? : Option Binary64) (speed elapsed : Binary64) : Prop where
  downloaded : ∃ n : Nat, downloaded.IsWhole n ∧ n < 2 ^ 53
  total : ∀ total ∈ total?, ∃ n : Nat, total.IsWhole n ∧ n < 2 ^ 53
  speed : ∃ n : Nat, speed.IsWhole n ∧ n < 2 ^ 53
  elapsed : ∃ z : Int, elapsed.floor.IsWhole z ∧ z < 2 ^ 53

section Described
variable {downloaded speed elapsed : Binary64} {total? : Option Binary64}

theorem Described.moderate (described : Described downloaded total? speed elapsed) :
    (describe downloaded total? speed elapsed).Moderate := by
  obtain ⟨d, arrived, some⟩ := described.downloaded
  obtain ⟨s, rate, fast⟩ := described.speed
  refine ⟨⟨d, arrived, some⟩, described.total, ⟨s, rate, fast⟩, described.elapsed, ?_, ?_⟩
  · intro percent member
    obtain ⟨total, known, rfl⟩ := Option.map_eq_some_iff.mp member
    obtain ⟨t, announced, all⟩ := described.total total known
    obtain ⟨number, least, most, -⟩ := percentOf_bounds arrived announced some all
    exact ⟨number, least, most⟩
  · intro left member
    obtain ⟨total, known, rfl⟩ := Option.map_eq_some_iff.mp member
    obtain ⟨t, announced, all⟩ := described.total total known
    refine ⟨(t - d) / s, .inl (secondsFor_eq arrived announced rate some all fast), ?_⟩
    exact (Nat.div_le_self ..).trans_lt (by omega)

theorem Described.sound (described : Described downloaded total? speed elapsed) :
    (describe downloaded total? speed elapsed).Sound := by
  obtain ⟨d, arrived, some⟩ := described.downloaded
  obtain ⟨s, rate, fast⟩ := described.speed
  refine ⟨⟨rate.isInteger, ?_⟩, ?_, ?_⟩
  · show 0 ≤ speed.value
    rw [rate.value]
    exact_mod_cast s.zero_le
  · intro total known
    obtain ⟨t, announced, all⟩ := described.total total known
    obtain ⟨number, least, -, full⟩ := percentOf_bounds arrived announced some all
    refine ⟨_, Option.map_eq_some_iff.mpr ⟨total, known, rfl⟩, number, least, fun zero => full ?_⟩
    rw [announced.value] at zero
    exact_mod_cast zero
  · intro total known
    obtain ⟨t, announced, all⟩ := described.total total known
    -- The seconds left are a quotient that is exact in whole numbers, so the bounds are those of a whole division.
    have seconds : (secondsFor downloaded total speed).IsWhole ((t - d) / s : Nat) :=
      .inl (secondsFor_eq arrived announced rate some all fast)
    have shown : speed.value = s := rate.value
    have missing : (describe downloaded total? speed elapsed).missing total = (t - d : Nat) :=
      max_value_sub arrived announced
    refine ⟨_, Option.map_eq_some_iff.mpr ⟨total, known, rfl⟩, seconds.isInteger, ?_, ?_, ?_⟩
    · rw [seconds.value]
      exact_mod_cast Nat.zero_le _
    · intro done
      have none : (t - d) / s = 0 := by
        rcases done with still | here
        · have zero : s = 0 := by exact_mod_cast shown.symm.trans still
          rw [zero, Nat.div_zero]
        · have less : t ≤ d := by
            change total.value ≤ downloaded.value at here
            rw [announced.value, arrived.value] at here
            exact_mod_cast here
          rw [Nat.sub_eq_zero_of_le less, Nat.zero_div]
      rw [seconds.value, none]
      rfl
    · intro moving
      have positive : 0 < s := by
        refine Nat.pos_of_ne_zero fun zero => moving ?_
        show speed.value = 0
        rw [shown, zero, Nat.cast_zero]
      have least : (t - d) / s * s ≤ t - d := Nat.div_mul_le_self ..
      have most : t - d < ((t - d) / s + 1) * s := Nat.lt_mul_of_div_lt (Nat.lt_succ_self _) positive
      have rate_value : (describe downloaded total? speed elapsed).bytesPerSecond.value = s := shown
      rw [missing, seconds.value, rate_value]
      exact ⟨by exact_mod_cast least, by exact_mod_cast most⟩

end Described
end Report.Snapshot

/-! ## The snapshots of a transfer -/

namespace Stage

theorem described {stage : Stage} {announced? : Option Binary64} {start : Binary64} (capacity : Nat)
    (announced : ∀ length ∈ announced?, ∃ n : Nat, length.IsWhole n ∧ n < 2 ^ 53)
    (filled : ∀ arrival ∈ stage.arrived, 0 < arrival.size) (fits : stage.total < 2 ^ 53)
    (elapsed : ∃ z : Int, ((stage.time - start) / 1000).floor.IsWhole z ∧ z < 2 ^ 53) :
    Snapshot.Described (.ofNat stage.total) announced?
      (stage.snapshot capacity announced? start).bytesPerSecond ((stage.time - start) / 1000) := by
  refine ⟨⟨stage.total, Binary64.isWhole_ofNat fits, fits⟩, announced, ?_, elapsed⟩
  rw [speed_snapshot capacity filled fits]
  split
  · cases known : announced? with
    | none => exact ⟨0, .inl Binary64.zero_eq_finite, by decide⟩
    | some length => exact announced length known
  · have mean := Nat.div_le_self (stage.samples capacity).sum (stage.samples capacity).length
    have sum := stage.sum_samples_le capacity
    exact ⟨_, .inl rfl, (mean.trans sum).trans_lt fits⟩

end Stage

theorem Text.legible_of_makesRoom {chunk : String} (room : MakesRoom chunk) : Legible chunk := by
  apply Legible.of_tame
  rcases room with rfl | ⟨n, rfl⟩
  · decide
  · rw [String.toList_append]
    exact (numeral_spaces n).tame.append (by decide)

namespace Transfer
variable {κ : Type} [Clock κ]

/-- With a body of less than `2 ^ 53` bytes, an announced length in the same range or none, and a clock that shows whole
milliseconds near each other, forward or backward: every snapshot of a transfer is sound, the listener is told of just
these, and no terminal is given a text with a number in it that has gone wrong. -/
theorem run_shows_sound_numbers (options : TransferOptions) (source : Source) (clock : κ) (terminal : Terminal)
    (blockSize capacity : Nat) (sized : options.chunkSize.positiveInteger? = some blockSize)
    (sampled : options.speedSamples.positiveInteger? = some capacity)
    (announced : ∀ length ∈ source.announced?, length.isExactInteger = true ∧ 0 ≤ length.value)
    (fits : (ReadStep.join (source.reads blockSize)).size < 2 ^ 53) :
    let timeline := (opened options source.announced? clock terminal blockSize capacity).timeline source
    let snapshots := timeline.stages.map (Stage.snapshot capacity source.announced? timeline.start)
    let result := run options source clock terminal
    (∀ time ∈ timeline.readings, time.isExactInteger = true) →
    (∀ later ∈ timeline.readings, ∀ earlier ∈ timeline.readings, later.value - earlier.value < 2 ^ 53) →
    (∀ snapshot ∈ snapshots, snapshot.Sound ∧ Legible snapshot.line) ∧
    (∀ listener ∈ options.listener?, result.reports.toList = snapshots) ∧
    ∃ chunks, result.display.terminal.texts = terminal.texts ++ chunks ∧
      ∀ chunk ∈ chunks, (MakesRoom chunk ∨ ∃ snapshot ∈ snapshots, chunk = snapshot.line) ∧ Legible chunk := by
  intro timeline snapshots result exact near
  have lengths : ∀ length ∈ source.announced?, ∃ n : Nat, length.IsWhole n ∧ n < 2 ^ 53 := by
    intro length known
    obtain ⟨whole, nonneg⟩ := announced length known
    obtain ⟨z, same, small⟩ := Binary64.exists_isWhole_of_isExactInteger whole
    rw [same.value] at nonneg
    obtain ⟨n, rfl⟩ := Int.eq_ofNat_of_zero_le (by exact_mod_cast nonneg : 0 ≤ z)
    exact ⟨n, same, by omega⟩
  have described : ∀ stage ∈ timeline.stages, Snapshot.Described (.ofNat stage.total) source.announced?
      (stage.snapshot capacity source.announced? timeline.start).bytesPerSecond
      ((stage.time - timeline.start) / 1000) := by
    intro stage member
    have among := timeline.times_stages.subset (List.mem_cons_of_mem _ (List.mem_map_of_mem member))
    have first : timeline.start ∈ timeline.readings := List.mem_cons_self
    obtain ⟨a, now, later⟩ := Binary64.exists_isWhole_of_isExactInteger (exact _ among)
    obtain ⟨b, begun, earlier⟩ := Binary64.exists_isWhole_of_isExactInteger (exact _ first)
    -- A clock may go backward, but no two of its readings are further apart than whole numbers can tell.
    have apart : (a - b).natAbs < 2 ^ 53 := by
      have forward := near _ among _ first
      have backward := near _ first _ among
      rw [now.value, begun.value] at forward backward
      have least : a - b < 2 ^ 53 := by exact_mod_cast forward
      have most : b - a < 2 ^ 53 := by exact_mod_cast backward
      omega
    obtain ⟨total, filled⟩ := total_stage_le source (opened options source.announced? clock terminal blockSize capacity)
      member
    exact stage.described capacity lengths filled (total.trans_lt fits)
      (Snapshot.elapsed_isWhole now begun later earlier apart)
  have sound : ∀ snapshot ∈ snapshots, snapshot.Sound ∧ Legible snapshot.line := by
    intro snapshot member
    obtain ⟨stage, drawn, rfl⟩ := List.mem_map.mp member
    exact ⟨(described stage drawn).sound, (described stage drawn).moderate.legible_line⟩
  refine ⟨sound, fun listener seated => reports_run sized sampled seated source clock terminal, ?_⟩
  obtain ⟨chunks, texts, known⟩ : result.display.Wrote terminal.texts snapshots :=
    wrote_run sized sampled source clock terminal
  refine ⟨chunks, texts, fun chunk member => ⟨known chunk member, ?_⟩⟩
  rcases known chunk member with room | ⟨snapshot, drawn, rfl⟩
  · exact legible_of_makesRoom room
  · exact (sound snapshot drawn).2

/-- Four bytes come although none were announced, and the clock goes back by two seconds with every reading. -/
theorem run_shows_sound_numbers_of_clock_set_back :
    let options : TransferOptions := ⟨4, 2, 5, some ⟨0, fun _ => none⟩, fun _ => true⟩
    let reads : List ReadStep := [⟨[], .ok ⟨#[1, 2, 3]⟩⟩, ⟨[5000], .ok ⟨#[4]⟩⟩]
    let source : Source := ⟨some 0, fun _ => reads, .works⟩
    let result := run options source (⟨0, -2000⟩ : Stopwatch) (.fresh .healthy)
    result.reports.toList.map (fun s => (s.bytesPerSecond, s.percent?, s.elapsedSeconds, s.secondsLeft?)) =
        [(4, some 100, -1, some 0), (4, some 100, -5, some 0)] ∧
      result.reports.toList.map Snapshot.line =
        List.replicate 2 "  4 B /   0 B (100%)   4 B/s in  0s ETA:  0s" ∧
      ∀ snapshot ∈ result.reports.toList, snapshot.Sound ∧ Legible snapshot.line := by
  intro options reads source result
  obtain ⟨sound, told, -⟩ := run_shows_sound_numbers options source (⟨0, -2000⟩ : Stopwatch) (.fresh .healthy) 4 2
    (by decide +kernel) (by decide +kernel) (by decide +kernel) (by decide +kernel) (by decide +kernel)
    (by decide +kernel)
  have same := told ⟨0, fun _ => none⟩ rfl
  refine ⟨by decide +kernel, by decide +kernel, fun snapshot member => sound snapshot ?_⟩
  rwa [← same]

end Transfer
end MeteredDownload
