import Mathlib.Data.List.Chain
import MeteredDownload.Proofs.Decimal
import MeteredDownload.Proofs.Numeral
import MeteredDownload.Report.Snapshot

/-!
# Legible numbers

A number that has gone wrong shows in its text: as `NaN` or `Infinity`, by a minus sign, or by an exponent.  Counts of
bytes, rates, shares and durations have none of these in their texts (`Text.Legible`) as long as their numbers are
moderate ones, and neither has a status line made of them (`Snapshot.Moderate.legible_line`).  The marks are looked for
in the whole line, so they must not come about where two texts meet; `Text.Tame` is what appending keeps.
-/
set_option autoImplicit false
namespace MeteredDownload

open Numeric

namespace Text

/-- No number in the text is missing, infinite, negative or in the form with an exponent. -/
structure Legible (s : String) : Prop where
  noNaN : ¬ "NaN".toList <:+: s.toList
  noInfinity : ¬ "Infinity".toList <:+: s.toList
  noMinus : '-' ∉ s.toList
  noExponent : ∀ digit : Char, digit.isDigit = true → ¬ [digit, 'e'] <:+: s.toList

structure Tame (cs : List Char) : Prop where
  unmarked : ∀ c ∈ cs, c ≠ 'N' ∧ c ≠ 'I' ∧ c ≠ '-'
  chain : cs.IsChain fun c d => c.isDigit = false ∨ d ≠ 'e'
  start : cs.head? ≠ some 'e'

def Numeral (cs : List Char) : Prop := ∀ c ∈ cs, c.isDigit = true ∨ c = '.' ∨ c = ' '

section Tame
variable {cs ds : List Char} {s : String}

-- The first part is decided by a run through the text: to decide it for all `c` is to run through all characters.
instance : Decidable (Tame cs) :=
  decidable_of_iff (cs.all (fun c => decide (c ≠ 'N' ∧ c ≠ 'I' ∧ c ≠ '-')) = true ∧
      cs.IsChain (fun c d => c.isDigit = false ∨ d ≠ 'e') ∧ cs.head? ≠ some 'e') <| by
    rw [List.all_eq_true]
    simp only [decide_eq_true_eq]
    constructor
    · rintro ⟨unmarked, chain, start⟩
      exact ⟨unmarked, chain, start⟩
    · rintro ⟨unmarked, chain, start⟩
      exact ⟨unmarked, chain, start⟩

theorem Tame.append (left : Tame cs) (right : Tame ds) : Tame (cs ++ ds) := by
  refine ⟨List.forall_mem_append.mpr ⟨left.unmarked, right.unmarked⟩, ?_, ?_⟩
  · refine List.isChain_append.mpr ⟨left.chain, right.chain, ?_⟩
    intro c _ d first
    exact .inr fun same => right.start (same ▸ first)
  · cases cs with
    | nil => exact right.start
    | cons c cs => exact left.start

theorem Legible.of_tame (tame : Tame s.toList) : Legible s := by
  have marked : ∀ {mark : List Char} {c : Char}, c ∈ mark → c = 'N' ∨ c = 'I' ∨ c = '-' → ¬ mark <:+: s.toList := by
    intro mark c member begins part
    obtain ⟨first, second, third⟩ := tame.unmarked c (part.subset member)
    rcases begins with rfl | rfl | rfl
    · exact first rfl
    · exact second rfl
    · exact third rfl
  refine ⟨marked (c := 'N') (by decide) (by decide), marked (c := 'I') (by decide) (by decide), ?_, ?_⟩
  · intro member
    exact (tame.unmarked _ member).2.2 rfl
  · intro digit isDigit part
    have pair := tame.chain.infix part
    rw [List.isChain_pair] at pair
    rcases pair with other | letter
    · exact absurd isDigit (Bool.eq_false_iff.mp other)
    · exact letter rfl

theorem Numeral.append (left : Numeral cs) (right : Numeral ds) : Numeral (cs ++ ds) :=
  List.forall_mem_append.mpr ⟨left, right⟩

theorem Numeral.tame (numeral : Numeral cs) : Tame cs := by
  have never : ∀ {c d : Char}, c ∈ cs → d.isDigit = false → d ≠ '.' → d ≠ ' ' → c ≠ d := by
    rintro c d member letter point blank rfl
    rcases numeral c member with digit | same | same
    · rw [letter] at digit
      cases digit
    · exact point same
    · exact blank same
  refine ⟨fun c member => ⟨?_, ?_, ?_⟩, ?_, ?_⟩
  · exact never member (by decide) (by decide) (by decide)
  · exact never member (by decide) (by decide) (by decide)
  · exact never member (by decide) (by decide) (by decide)
  · refine (List.pairwise_of_forall_mem_list fun c _ d member => ?_).isChain
    exact .inr (never member (by decide) (by decide) (by decide))
  · intro start
    exact never (List.mem_of_mem_head? start) (by decide) (by decide) (by decide) rfl

theorem numeral_spaces (n : Nat) : Numeral (spaces n).toList := by
  rw [spaces, String.toList_ofList]
  intro c member
  exact .inr (.inr (List.eq_of_mem_replicate member))

theorem numeral_toString (n : Nat) : Numeral (toString n).toList :=
  fun _ member => .inl (isDigit_of_mem_toString member)

theorem Numeral.alignRight (numeral : Numeral s.toList) (width : Nat) : Numeral (alignRight width s).toList := by
  rw [Text.alignRight, String.toList_append]
  exact (numeral_spaces _).append numeral

end Tame
end Text

/-! ## Texts of numbers -/

namespace Numeric
open Text

theorem Decimal.numeral_pointed {digits : List Char} (numeral : Numeral digits) (point : Nat) :
    Numeral (pointed digits point) := by
  refine Numeral.append (fun c member => numeral c (List.mem_of_mem_take member)) ?_
  intro c member
  rcases List.mem_cons.mp member with rfl | later
  · exact .inr (.inl rfl)
  · exact numeral c (List.mem_of_mem_drop later)

namespace Binary64
variable {x : Binary64}

theorem numeral_fixedDigits (places : Nat) (q : Rat) : Numeral (fixedDigits places q).toList := by
  have zeros : ∀ n, Numeral (List.replicate n '0') := by
    intro n c member
    rw [List.eq_of_mem_replicate member]
    exact .inl rfl
  unfold fixedDigits
  dsimp only
  generalize (roundHalfUp (q * (10 : Rat) ^ places)).toNat = scaled
  have padded := (zeros (places + 1 - (toString scaled).toList.length)).append (numeral_toString scaled)
  split <;> rw [String.toList_ofList]
  · exact padded
  · exact Decimal.numeral_pointed padded _

theorem numeral_fixedText (places : Nat) (number : x.isFinite = true) (least : 0 ≤ x.value)
    (most : x.value < 10 ^ 21) : Numeral (x.fixedText places).toList := by
  cases x with
  | nan => cases number
  | infinity => cases number
  | negativeZero => exact numeral_fixedDigits places 0
  | finite q =>
    rw [fixedText_finite (q := q) least most]
    exact numeral_fixedDigits places q

theorem IsWhole.numeral_fixedText {n : Nat} (whole : x.IsWhole n) (small : n < 2 ^ 53) (places : Nat) :
    Numeral (x.fixedText places).toList := by
  rw [fixedText_isWhole whole small]
  exact numeral_fixedDigits places n

theorem round_bounds (number : x.isFinite = true) (least : 0 ≤ x.value) :
    x.round.isFinite = true ∧ 0 ≤ x.round.value ∧ x.round.value ≤ x.value + 1 / 2 := by
  cases x with
  | nan => cases number
  | infinity => cases number
  | negativeZero => exact ⟨rfl, le_rfl, by norm_num [round, value]⟩
  | finite q =>
    have nonneg : 0 ≤ q := least
    have half : (roundHalfUp q : Rat) ≤ q + 1 / 2 := Rat.floor_le _
    have above : (0 : Rat) ≤ roundHalfUp q := by exact_mod_cast roundHalfUp_nonneg nonneg
    rw [round]
    split_ifs with zero
    · have unsigned : decide (q < 0) = false := decide_eq_false (not_lt.mpr nonneg)
      rw [unsigned]
      exact ⟨rfl, le_rfl, by show 0 ≤ q + 1 / 2; linarith⟩
    · exact ⟨rfl, above, half⟩

end Binary64
end Numeric

/-! ## Texts of counts, rates and durations -/

namespace Report
open Text Binary64

section Texts
variable {x : Binary64} {n : Nat}

theorem numeral_amountText (unit : SizeUnit) (whole : x.IsWhole n) (small : n < 2 ^ 53) :
    Numeral (amountText unit x).toList := by
  have quotient : Numeral ((x / ofNat unit.factor).fixedText 1).toList := by
    have factor : ofNat unit.factor = finite unit.factor := ofNat_eq_finite (by cases unit <;> decide)
    obtain ⟨number, least, most⟩ :=
      whole.div_bounds small (n := unit.factor) (by cases unit <;> decide) (by cases unit <;> decide)
    rw [factor]
    exact numeral_fixedText 1 number least (most.trans_lt (natCast_lt_of_small small))
  unfold amountText
  split
  · exact (whole.numeral_fixedText small 0).alignRight 3
  · exact quotient.alignRight 5

theorem tame_sizeText (whole : x.IsWhole n) (small : n < 2 ^ 53) : Tame (sizeText x).toList := by
  have amount := (numeral_amountText (SizeUnit.ofSize x) whole small).tame
  have symbol : Tame (" ".toList ++ (SizeUnit.ofSize x).symbol.toList) := by
    cases SizeUnit.ofSize x <;> decide
  rw [sizeText, String.toList_append, String.toList_append, List.append_assoc]
  exact amount.append symbol

theorem tame_rateText (whole : x.IsWhole n) (small : n < 2 ^ 53) : Tame (rateText x).toList := by
  rw [rateText, String.toList_append]
  exact (tame_sizeText whole small).append (by decide)

theorem Duration.ofSeconds_of_isWhole {z : Int} (whole : x.IsWhole z) (small : z < 2 ^ 53) :
    Duration.ofSeconds x = ⟨finite (z.toNat / 60 / 60 / 24 : Nat), finite (z.toNat / 60 / 60 % 24 : Nat),
      finite (z.toNat / 60 % 60 : Nat), finite (z.toNat % 60 : Nat)⟩ := by
  have seconds : Binary64.max 0 x.floor = finite z.toNat := whole.floor.max_zero.2
  have sixty : (60 : Binary64) = finite (60 : Nat) := ofNat_eq_finite (by decide)
  have day : (24 : Binary64) = finite (24 : Nat) := ofNat_eq_finite (by decide)
  have some : z.toNat < 2 ^ 53 := by omega
  have minutes : z.toNat / 60 < 2 ^ 53 := by omega
  have hours : z.toNat / 60 / 60 < 2 ^ 53 := by omega
  unfold Duration.ofSeconds
  simp only [seconds, sixty, day]
  rw [floor_natCast_div some (by decide) (by decide), floor_natCast_div minutes (by decide) (by decide),
    floor_natCast_div hours (by decide) (by decide), natCast_mod hours (by decide), natCast_mod minutes (by decide),
    natCast_mod some (by decide)]

theorem tame_component (width : Nat) (small : n < 2 ^ 53) (letter : String) (tame : Tame letter.toList) :
    Tame (Duration.component width (finite n) letter).toList := by
  have numeral : Numeral (finite n).text.toList := by
    rw [text_natCast small]
    exact numeral_toString n
  rw [Duration.component, String.toList_append]
  exact (numeral.alignRight width).tame.append tame

theorem tame_durationText {z : Int} (whole : x.IsWhole z) (small : z < 2 ^ 53) : Tame (durationText x).toList := by
  have some : z.toNat < 2 ^ 53 := by omega
  have days := tame_component 3 (n := z.toNat / 60 / 60 / 24) (by omega) "d " (by decide)
  have hours := tame_component 2 (n := z.toNat / 60 / 60 % 24) (by omega) "h " (by decide)
  have minutes := tame_component 2 (n := z.toNat / 60 % 60) (by omega) "m " (by decide)
  have seconds := tame_component 2 (n := z.toNat % 60) (by omega) "s" (by decide)
  rw [durationText, Duration.ofSeconds_of_isWhole whole small, Duration.text]
  dsimp only
  split
  · simpa only [String.toList_append] using days.append (hours.append (minutes.append seconds))
  split
  · simpa only [String.toList_append] using hours.append (minutes.append seconds)
  split
  · simpa only [String.toList_append] using minutes.append seconds
  · exact seconds

theorem tame_percentText (number : x.isFinite = true) (least : 0 ≤ x.value) (most : x.value ≤ 10 ^ 20) :
    Tame (Snapshot.percentText x).toList := by
  obtain ⟨rounded, nonneg, half⟩ := round_bounds number least
  refine ((numeral_fixedText 0 rounded nonneg ?_).alignRight 3).tame
  calc x.round.value ≤ 10 ^ 20 + 1 / 2 := by linarith
    _ < 10 ^ 21 := by norm_num

end Texts

/-! ## Status lines -/

namespace Snapshot

/-- The numbers of the snapshot are whole ones below `2 ^ 53` where they count bytes or seconds, and no count is below
zero.  Time that has passed may be: a clock can be set back. -/
structure Moderate (s : Snapshot) : Prop where
  downloaded : ∃ n : Nat, s.bytesDownloaded.IsWhole n ∧ n < 2 ^ 53
  total : ∀ total ∈ s.totalBytes?, ∃ n : Nat, total.IsWhole n ∧ n < 2 ^ 53
  speed : ∃ n : Nat, s.bytesPerSecond.IsWhole n ∧ n < 2 ^ 53
  elapsed : ∃ z : Int, s.elapsedSeconds.IsWhole z ∧ z < 2 ^ 53
  percent : ∀ percent ∈ s.percent?, percent.isFinite = true ∧ 0 ≤ percent.value ∧ percent.value ≤ 10 ^ 20
  left : ∀ left ∈ s.secondsLeft?, ∃ n : Nat, left.IsWhole n ∧ n < 2 ^ 53

theorem Moderate.legible_line {s : Snapshot} (moderate : s.Moderate) : Legible s.line := by
  obtain ⟨downloaded, downloaded_whole, downloaded_small⟩ := moderate.downloaded
  obtain ⟨speed, speed_whole, speed_small⟩ := moderate.speed
  obtain ⟨elapsed, elapsed_whole, elapsed_small⟩ := moderate.elapsed
  have bytes := tame_sizeText downloaded_whole downloaded_small
  have rate := tame_rateText speed_whole speed_small
  have passed := tame_durationText elapsed_whole elapsed_small
  have fixed : Tame "Total: ".toList ∧ Tame " Speed: ".toList ∧ Tame " Elapsed: ".toList ∧ Tame " / ".toList ∧
      Tame " (".toList ∧ Tame "%) ".toList ∧ Tame " in ".toList ∧ Tame " ETA: ".toList := by decide
  obtain ⟨head, before_rate, before_time, slash, bracket, close, within, ahead⟩ := fixed
  apply Legible.of_tame
  unfold line
  cases known : s.totalBytes? with
  | none =>
    simp only [String.toList_append]
    exact ((((head.append bytes).append before_rate).append rate).append before_time).append passed
  | some total =>
    obtain ⟨n, whole, small⟩ := moderate.total total known
    have all := tame_sizeText whole small
    have zero : (0 : Binary64).IsWhole 0 := isWhole_ofNat (n := 0) (by decide)
    have share : Tame (percentText (s.percent?.getD 0)).toList := by
      cases shown : s.percent? with
      | none => exact tame_percentText zero.isFinite (by simp [zero.value]) (by simp [zero.value])
      | some percent =>
        obtain ⟨number, least, most⟩ := moderate.percent percent shown
        exact tame_percentText number least most
    have left : Tame (durationText (s.secondsLeft?.getD 0)).toList := by
      cases shown : s.secondsLeft? with
      | none => exact tame_durationText zero (by decide)
      | some left =>
        obtain ⟨n, whole, small⟩ := moderate.left left shown
        exact tame_durationText whole (by exact_mod_cast small)
    simp only [String.toList_append]
    exact ((((((((((bytes.append slash).append all).append bracket).append share).append close).append rate).append
      within).append passed).append ahead).append left)

end Snapshot
end Report
end MeteredDownload
