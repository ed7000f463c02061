import MeteredDownload.Proofs.Speed

/-!
# What a window keeps

A history of a window is a list of entries: amounts that are recorded, and commits.  The commits cut it into intervals,
and a window keeps the sums of the last completed ones, the newest first, and the sum of the one in progress
(`Keeps`).  A window of binary numbers goes the same way as one of whole numbers as long as less than `2 ^ 53` is
recorded in all (`after_inBinary`), so its speed is the mean of those sums, rounded down, and hangs on nothing else
(`after_shows_last_sums`).
-/
set_option autoImplicit false
namespace MeteredDownload.SpeedWindow

open Numeric

inductive Entry (α : Type) where
  | amount (n : α)
  | commit
  deriving DecidableEq, Repr

namespace Entry
variable {α : Type}

def isCommit : Entry α → Bool
  | amount _ => false
  | commit => true

def amount? : Entry α → Option α
  | amount n => some n
  | commit => none

def IsCount : Entry Binary64 → Prop
  | amount x => x.isInteger = true ∧ 0 ≤ x.value
  | commit => True

def count : Entry Binary64 → Entry Nat
  | amount x => amount x.value.num.toNat
  | commit => commit

instance : DecidablePred IsCount
  | amount _ => inferInstanceAs (Decidable (_ ∧ _))
  | commit => .isTrue trivial

end Entry

def enter {α : Type} [Amount α] (w : SpeedWindow α) : Entry α → SpeedWindow α
  | .amount n => w.record n
  | .commit => w.commit

def after {α : Type} [Amount α] (w : SpeedWindow α) (entries : List (Entry α)) : SpeedWindow α :=
  entries.foldl enter w

/-! ## Intervals -/

section Intervals
variable (entries : List (Entry Nat))

/-- The amounts between consecutive commits.  The last interval is the one in progress. -/
def intervals : List (List Nat) := (entries.splitOnP Entry.isCommit).map (List.filterMap Entry.amount?)

def completedSums : List Nat := (intervals entries).dropLast.map List.sum

def pendingSum : Nat := ((intervals entries).getLast?.map List.sum).getD 0

/-- The sums of the last completed intervals, the newest first. -/
def lastSums (capacity : Nat) : List Nat := (completedSums entries).reverse.take capacity

def total : Nat := (entries.filterMap Entry.amount?).sum

theorem splitOnP_concat_of_not {α : Type} {p : α → Bool} {x : α} (other : p x = false) (xs : List α) :
    ∃ earlier last, xs.splitOnP p = earlier ++ [last] ∧ (xs ++ [x]).splitOnP p = earlier ++ [last ++ [x]] := by
  induction xs with
  | nil => exact ⟨[], [], by simp, by simp [List.splitOnP_cons_eq_if_modifyHead, other]⟩
  | cons y ys ih =>
    obtain ⟨earlier, last, before, after⟩ := ih
    rw [List.cons_append, List.splitOnP_cons_eq_if_modifyHead, List.splitOnP_cons_eq_if_modifyHead, before, after]
    split
    · exact ⟨[] :: earlier, last, rfl, rfl⟩
    · cases earlier with
      | nil => exact ⟨[], y :: last, rfl, rfl⟩
      | cons first earlier => exact ⟨(y :: first) :: earlier, last, rfl, rfl⟩

theorem intervals_commit : intervals (entries ++ [.commit]) = intervals entries ++ [[]] := by
  have ends : Entry.isCommit (.commit : Entry Nat) = true := rfl
  simp [intervals, List.splitOnP_append_cons entries [] ends]

theorem intervals_amount (n : Nat) : ∃ earlier last, intervals entries = earlier ++ [last] ∧
    intervals (entries ++ [.amount n]) = earlier ++ [last ++ [n]] := by
  have goesOn : Entry.isCommit (.amount n) = false := rfl
  obtain ⟨earlier, last, before, after⟩ := splitOnP_concat_of_not goesOn entries
  refine ⟨earlier.map (List.filterMap Entry.amount?), last.filterMap Entry.amount?, ?_, ?_⟩
  · simp [intervals, before]
  · simp [intervals, after, Entry.amount?]

theorem exists_intervals_eq : ∃ earlier last, intervals entries = earlier ++ [last] := by
  obtain ⟨earlier, last, split, -⟩ := intervals_amount entries 0
  exact ⟨earlier, last, split⟩

theorem sums_commit : completedSums (entries ++ [.commit]) = completedSums entries ++ [pendingSum entries] ∧
    pendingSum (entries ++ [.commit]) = 0 := by
  obtain ⟨earlier, last, split⟩ := exists_intervals_eq entries
  simp [completedSums, pendingSum, intervals_commit, split]

theorem sums_amount (n : Nat) : completedSums (entries ++ [.amount n]) = completedSums entries ∧
    pendingSum (entries ++ [.amount n]) = pendingSum entries + n := by
  obtain ⟨earlier, last, before, after⟩ := intervals_amount entries n
  simp [completedSums, pendingSum, before, after]

theorem sum_sums : (completedSums entries).sum + pendingSum entries = total entries := by
  induction entries using List.reverseRecOn with
  | nil => simp [completedSums, pendingSum, intervals, total]
  | append_singleton entries entry ih =>
    cases entry with
    | amount n =>
      obtain ⟨completed, pending⟩ := sums_amount entries n
      have counted : total (entries ++ [.amount n]) = total entries + n := by simp [total, Entry.amount?]
      rw [completed, pending, counted]
      omega
    | commit =>
      obtain ⟨completed, pending⟩ := sums_commit entries
      have nothing : ([.commit] : List (Entry Nat)).filterMap Entry.amount? = [] := rfl
      have counted : total (entries ++ [.commit]) = total entries := by simp [total, nothing]
      rw [completed, pending, counted, List.sum_append, List.sum_singleton]
      omega

theorem lastSums_eq_nil_iff {capacity : Nat} (room : 0 < capacity) :
    lastSums entries capacity = [] ↔ completedSums entries = [] := by
  simp [lastSums, room.ne']

theorem sum_lastSums_le (capacity : Nat) : (lastSums entries capacity).sum ≤ total entries := by
  calc (lastSums entries capacity).sum
      ≤ (completedSums entries).reverse.sum := (List.take_sublist ..).sum_le_sum (fun _ _ => Nat.zero_le _)
    _ = (completedSums entries).sum := List.sum_reverse _
    _ ≤ total entries := by
      have balance := sum_sums entries
      omega

end Intervals

/-! ## Windows of whole numbers -/

structure Keeps (capacity : Nat) (entries : List (Entry Nat)) (w : SpeedWindow Nat) : Prop where
  capacity : w.capacity = capacity
  samples : w.samples = lastSums entries w.capacity
  pending : w.pending = pendingSum entries

theorem keeps_after {capacity : Nat} (room : 0 < capacity) (entries : List (Entry Nat)) :
    Keeps capacity entries ((empty capacity).after entries) := by
  induction entries using List.reverseRecOn with
  | nil => exact ⟨rfl, by simp [after, empty, lastSums, completedSums, intervals], rfl⟩
  | append_singleton entries entry ih =>
    have step : (empty capacity).after (entries ++ [entry]) = ((empty capacity).after entries).enter entry := by
      simp [after]
    rw [step]
    generalize (empty capacity).after entries = w at ih
    cases entry with
    | amount n =>
      obtain ⟨completed, pending⟩ := sums_amount entries n
      refine ⟨ih.capacity, ?_, ?_⟩
      · rw [lastSums, completed]
        exact ih.samples
      · rw [pending, ← ih.pending]
        rfl
    | commit =>
      obtain ⟨completed, pending⟩ := sums_commit entries
      refine ⟨ih.capacity, ?_, pending.symm⟩
      have kept : w.commit.samples = _ := samples_commit (ih.capacity ▸ room) ih.samples
      rw [lastSums, completed, List.reverse_append, ← ih.pending]
      exact kept

/-- Amounts may be zero here, so there may be more samples than `2 ^ 53`. -/
theorem speed_eq_mean {w : SpeedWindow Nat} (sampled : w.samples ≠ []) (small : w.samples.sum < 2 ^ 53)
    (announced? : Option Binary64) : w.speed announced? = .finite (w.samples.sum / w.samples.length : Nat) := by
  have some : w.samples.isEmpty = false := by simpa using sampled
  rw [speed, some, sum_eq small]
  exact Binary64.floor_natCast_div_ofNat small (List.length_pos_iff.mpr sampled)

/-! ## Windows of binary numbers -/

def inBinary (w : SpeedWindow Nat) : SpeedWindow Binary64 :=
  ⟨w.capacity, w.samples.map Binary64.ofNat, .ofNat w.pending⟩

theorem zero_eq_ofNat : (Zero.zero : Binary64) = .ofNat 0 := (Binary64.ofNat_eq_finite (by decide)).symm

theorem commit_inBinary (w : SpeedWindow Nat) : w.inBinary.commit = w.commit.inBinary := by
  simp only [commit, inBinary, List.length_map]
  split <;> simp [List.map_dropLast] <;> exact zero_eq_ofNat

theorem record_inBinary (w : SpeedWindow Nat) {x : Binary64} {n : Nat} (whole : x.IsWhole n)
    (small : w.pending + n < 2 ^ 53) : w.inBinary.record x = (w.record n).inBinary := by
  have pending : Binary64.ofNat w.pending + x = .ofNat (w.pending + n) := by
    rw [Binary64.ofNat_eq_finite small]
    rcases whole with rfl | ⟨rfl, zero⟩
    · rw [Binary64.ofNat_eq_finite (by omega)]
      exact Binary64.natCast_add small
    · rw [Binary64.add_negativeZero, Binary64.ofNat_eq_finite (by omega)]
      congr 2
      omega
  simp only [record, inBinary, pending]

theorem isWhole_count {x : Binary64} (whole : x.isInteger = true) (nonneg : 0 ≤ x.value) :
    x.IsWhole x.value.num.toNat := by
  cases x with
  | nan => cases whole
  | infinity => cases whole
  | negativeZero => exact .inr ⟨rfl, rfl⟩
  | finite q =>
    have number : (q.num : Rat) = q := Rat.coe_int_num_of_den_eq_one (of_decide_eq_true whole)
    have least : 0 ≤ q.num := Rat.num_nonneg.mpr nonneg
    refine .inl (congrArg Binary64.finite ?_)
    rw [Binary64.value, Int.toNat_of_nonneg least, number]

theorem after_inBinary (w : SpeedWindow Nat) (entries : List (Entry Binary64))
    (whole : ∀ entry ∈ entries, entry.IsCount) (fits : w.pending + total (entries.map Entry.count) < 2 ^ 53) :
    w.inBinary.after entries = (w.after (entries.map Entry.count)).inBinary := by
  induction entries generalizing w with
  | nil => rfl
  | cons entry rest ih =>
    obtain ⟨first, later⟩ := List.forall_mem_cons.mp whole
    cases entry with
    | amount x =>
      obtain ⟨integer, nonneg⟩ := first
      have within : w.pending + x.value.num.toNat + total (rest.map Entry.count) < 2 ^ 53 := by
        simpa [total, Entry.count, Entry.amount?, Nat.add_assoc] using fits
      have step := record_inBinary w (isWhole_count integer nonneg) (by omega)
      calc w.inBinary.after (.amount x :: rest) = (w.inBinary.record x).after rest := rfl
        _ = (w.record x.value.num.toNat).inBinary.after rest := by rw [step]
        _ = _ := ih _ later within
    | commit =>
      -- Only the pending sum has to stay small, and it starts again at zero.
      have within : 0 + total (rest.map Entry.count) < 2 ^ 53 := by
        have less : total (rest.map Entry.count) ≤ w.pending + total (rest.map Entry.count) := Nat.le_add_left ..
        rw [Nat.zero_add]
        exact less.trans_lt fits
      calc w.inBinary.after (.commit :: rest) = w.inBinary.commit.after rest := rfl
        _ = w.commit.inBinary.after rest := by rw [commit_inBinary]
        _ = _ := ih _ later within

theorem speed_inBinary (w : SpeedWindow Nat) (announced? : Option Binary64) :
    w.inBinary.speed announced? = w.speed announced? := by
  simp only [speed, sum, inBinary, List.isEmpty_map, List.foldl_map, List.length_map]
  rfl

/-! ## Every history -/

structure Shows (capacity : Nat) (announced? : Option Binary64) (entries : List (Entry Nat))
    (w : SpeedWindow Binary64) : Prop where
  samples : w.samples = (lastSums entries capacity).map fun sum => .finite sum
  pending : w.pending = .finite (pendingSum entries)
  announced : completedSums entries = [] → w.speed announced? = announced?.getD 0
  /-- The exact mean of the samples, rounded down, which lies between the least and the largest of them. -/
  mean : completedSums entries ≠ [] → ∃ speed : Int,
    speed = ((lastSums entries capacity).sum / (lastSums entries capacity).length : Rat).floor ∧
    w.speed announced? = .finite speed ∧
    ∃ low ∈ lastSums entries capacity, ∃ high ∈ lastSums entries capacity,
      (∀ sum ∈ lastSums entries capacity, low ≤ sum ∧ sum ≤ high) ∧ low ≤ speed ∧ speed ≤ high

theorem mean_between {sums : List Nat} (some : sums ≠ []) : ∃ low ∈ sums, ∃ high ∈ sums,
    (∀ sum ∈ sums, low ≤ sum ∧ sum ≤ high) ∧ low ≤ sums.sum / sums.length ∧ sums.sum / sums.length ≤ high := by
  obtain ⟨low, least⟩ := Option.isSome_iff_exists.mp (List.isSome_min?_of_ne_nil some)
  obtain ⟨high, most⟩ := Option.isSome_iff_exists.mp (List.isSome_max?_of_ne_nil some)
  obtain ⟨low_mem, low_le⟩ := List.min?_eq_some_iff.mp least
  obtain ⟨high_mem, le_high⟩ := List.max?_eq_some_iff.mp most
  have length : 0 < sums.length := List.length_pos_iff.mpr some
  refine ⟨low, low_mem, high, high_mem, fun sum member => ⟨low_le sum member, le_high sum member⟩, ?_, ?_⟩
  · rw [Nat.le_div_iff_mul_le length, Nat.mul_comm]
    simpa using List.card_nsmul_le_sum sums low low_le
  · refine Nat.div_le_of_le_mul ?_
    simpa using List.sum_le_card_nsmul sums high le_high

theorem Keeps.shows {capacity : Nat} {entries : List (Entry Nat)} {w : SpeedWindow Nat}
    (keeps : Keeps capacity entries w) (room : 0 < capacity) (fits : total entries < 2 ^ 53)
    (announced? : Option Binary64) : Shows capacity announced? entries w.inBinary := by
  have samples : w.samples = lastSums entries capacity := keeps.capacity ▸ keeps.samples
  have small := (sum_lastSums_le entries capacity).trans_lt fits
  have balance := sum_sums entries
  refine ⟨?_, ?_, ?_, ?_⟩
  · rw [inBinary, samples]
    refine List.map_congr_left fun sum member => Binary64.ofNat_eq_finite ?_
    exact (List.le_sum_of_mem member).trans_lt small
  · rw [inBinary, keeps.pending]
    exact Binary64.ofNat_eq_finite (by omega)
  · intro none
    rw [speed_inBinary]
    exact speed_of_isEmpty (by rw [samples, lastSums, none]; simp) announced?
  · intro completed
    have some : lastSums entries capacity ≠ [] := mt (lastSums_eq_nil_iff entries room).mp completed
    obtain ⟨low, low_mem, high, high_mem, bounds, least, most⟩ := mean_between some
    let speed := (lastSums entries capacity).sum / (lastSums entries capacity).length
    have mean : (speed : Int) = ((lastSums entries capacity).sum / (lastSums entries capacity).length : Rat).floor :=
      (Rat.floor_natCast_div_natCast ..).symm
    refine ⟨speed, mean, ?_, low, low_mem, high, high_mem, bounds, ?_, ?_⟩
    · rw [speed_inBinary, speed_eq_mean (by rwa [samples]) (by rwa [samples]), samples, Int.cast_natCast]
    · exact_mod_cast least
    · exact_mod_cast most

theorem Shows.speed_congr {capacity : Nat} {announced? : Option Binary64} {entries others : List (Entry Nat)}
    {w v : SpeedWindow Binary64} (shows : Shows capacity announced? entries w)
    (alike : Shows capacity announced? others v) (room : 0 < capacity)
    (same : lastSums others capacity = lastSums entries capacity) : v.speed announced? = w.speed announced? := by
  by_cases none : completedSums entries = []
  · have neither : completedSums others = [] := by
      rwa [← lastSums_eq_nil_iff others room, same, lastSums_eq_nil_iff entries room]
    rw [shows.announced none, alike.announced neither]
  · have both : completedSums others ≠ [] := by
      rwa [Ne, ← lastSums_eq_nil_iff others room, same, lastSums_eq_nil_iff entries room]
    obtain ⟨speed, mean, shown, -⟩ := shows.mean none
    obtain ⟨other, otherMean, otherShown, -⟩ := alike.mean both
    rw [shown, otherShown, mean, otherMean, same]

theorem shows_after {capacity : Nat} (room : 0 < capacity) {entries : List (Entry Binary64)}
    (whole : ∀ entry ∈ entries, entry.IsCount) (fits : total (entries.map Entry.count) < 2 ^ 53)
    (announced? : Option Binary64) :
    Shows capacity announced? (entries.map Entry.count) ((empty capacity).after entries) := by
  have start : (empty capacity : SpeedWindow Binary64) = (empty capacity : SpeedWindow Nat).inBinary := by
    simp only [empty, inBinary, List.map_nil]
    exact congrArg _ zero_eq_ofNat
  have within : (empty capacity : SpeedWindow Nat).pending + total (entries.map Entry.count) < 2 ^ 53 :=
    (Nat.zero_add _).symm ▸ fits
  rw [start, after_inBinary _ entries whole within]
  exact (keeps_after room _).shows room fits announced?

/-- A window keeps the sums of the last completed intervals, as many as it has room for, and shows their mean.  What is
pending, and what has left the window, makes no difference to its speed. -/
theorem after_shows_last_sums {size : Binary64} {capacity : Nat} (room : size.positiveInteger? = some capacity)
    {entries : List (Entry Binary64)} (whole : ∀ entry ∈ entries, entry.IsCount)
    (fits : total (entries.map Entry.count) < 2 ^ 53) (announced? : Option Binary64) :
    ∃ w, (open? size).map (after · entries) = .ok w ∧ Shows capacity announced? (entries.map Entry.count) w ∧
      ∀ others : List (Entry Binary64), (∀ entry ∈ others, entry.IsCount) →
        total (others.map Entry.count) < 2 ^ 53 →
        lastSums (others.map Entry.count) capacity = lastSums (entries.map Entry.count) capacity →
        ∃ v, (open? size).map (after · others) = .ok v ∧ v.speed announced? = w.speed announced? := by
  have positive := (Binary64.eq_finite_of_positiveInteger? room).2
  have opened : open? size = .ok (empty capacity : SpeedWindow Binary64) := by
    rw [open?, room]
  have shows := shows_after positive whole fits announced?
  refine ⟨_, by rw [opened]; rfl, shows, ?_⟩
  intro others otherWhole otherFits same
  have alike := shows_after positive otherWhole otherFits announced?
  exact ⟨_, by rw [opened]; rfl, shows.speed_congr alike positive same⟩

/-- The window has room for two sums, so the seven bytes of the first interval have left it; the last interval is
empty. -/
theorem after_shows_last_sums_of_eviction :
    let entries : List (Entry Binary64) :=
      [.amount 3, .amount 4, .commit, .amount 11, .commit, .commit, .amount 9]
    ∃ w : SpeedWindow Binary64, (open? 2).map (after · entries) = .ok w ∧ w.samples = [.finite 0, .finite 11] ∧
      w.pending = .finite 9 ∧ w.speed none = .finite 5 := by
  intro entries
  have room : (2 : Binary64).positiveInteger? = some 2 := by decide +kernel
  have whole : ∀ entry ∈ entries, entry.IsCount := by decide +kernel
  obtain ⟨w, run, shows, -⟩ := after_shows_last_sums room whole (by decide +kernel) none
  have last : lastSums (entries.map Entry.count) 2 = [0, 11] := by decide +kernel
  obtain ⟨speed, mean, shown, -⟩ := shows.mean (by decide +kernel)
  refine ⟨w, run, ?_, ?_, ?_⟩
  · rw [shows.samples, last]
    decide +kernel
  · rw [shows.pending]
    decide +kernel
  · rw [shown, mean, last]
    decide +kernel

end MeteredDownload.SpeedWindow
