import MeteredDownload.Proofs.Numeral
import MeteredDownload.Report.Size

/-!
# What a size in bytes says

The text of a size is read as a decimal number and a unit (`readSize?`), and denotes their product.  Dividing a whole
number below `2 ^ 53` by a unit is exact, as all units are powers of two, so the number is the exact quotient, rounded
once to the places that are shown (`SizeUnit.shown`).  It is off by no more than half of the last place, and a larger
size never denotes less (`sizeText_denotes`): what is rounded up at the end of one unit comes to the first number of the
next at most.
-/
set_option autoImplicit false
namespace MeteredDownload

open Numeric

namespace Numeric

theorem roundHalfUp_mono {p q : Rat} (less : p ≤ q) : roundHalfUp p ≤ roundHalfUp q :=
  Rat.floor_monotone (by linarith)

theorem roundHalfUp_intCast (z : Int) : roundHalfUp z = z := by
  rw [roundHalfUp]
  apply le_antisymm
  · exact Int.lt_add_one_iff.mp (Rat.floor_lt_iff.mpr (by push_cast; linarith))
  · exact Rat.le_floor_iff.mpr (by linarith)

theorem abs_roundHalfUp_sub_le (q : Rat) : |(roundHalfUp q : Rat) - q| ≤ 1 / 2 := by
  have least : (roundHalfUp q : Rat) ≤ q + 1 / 2 := Rat.floor_le _
  have most : q + 1 / 2 < roundHalfUp q + 1 := by exact_mod_cast Rat.lt_floor_add_one (q + 1 / 2)
  rw [abs_le]
  constructor <;> linarith

end Numeric

namespace Report
open Text Binary64

namespace SizeUnit

def all : List SizeUnit := [bytes, kibibytes, mebibytes, gibibytes]

def ofSymbol? (symbol : List Char) : Option SizeUnit := all.find? fun unit => unit.symbol.toList = symbol

def places : SizeUnit → Nat
  | bytes => 0
  | _ => 1

def shown (unit : SizeUnit) (n : Nat) : Rat := roundHalfUp (n / unit.factor * 10 ^ unit.places) / 10 ^ unit.places

def reached (n : Nat) : SizeUnit :=
  if gibibytes.factor ≤ n then gibibytes
  else if mebibytes.factor ≤ n then mebibytes
  else if kibibytes.factor ≤ n then kibibytes
  else bytes

end SizeUnit

def readSize? (text : String) : Option (Rat × SizeUnit) :=
  let written := text.toList.dropWhile (· = ' ')
  (decimal? (written.takeWhile (· ≠ ' '))).bind fun amount =>
    (SizeUnit.ofSymbol? ((written.dropWhile (· ≠ ' ')).drop 1)).map fun unit => (amount, unit)

/-! ## Units -/

namespace SizeUnit
variable {n m : Nat}

theorem ofSymbol?_symbol (unit : SizeUnit) : ofSymbol? unit.symbol.toList = some unit := by
  cases unit <;> decide

theorem factor_pos (unit : SizeUnit) : (0 : Rat) < unit.factor := by
  cases unit <;> simp [factor]

theorem exists_factor_eq (unit : SizeUnit) : ∃ k ≤ 30, unit.factor = 2 ^ k := by
  cases unit with
  | bytes => exact ⟨0, by decide, by decide⟩
  | kibibytes => exact ⟨10, by decide, by decide⟩
  | mebibytes => exact ⟨20, by decide, by decide⟩
  | gibibytes => exact ⟨30, by decide, by decide⟩

theorem places_of_ne_bytes {unit : SizeUnit} (larger : unit ≠ bytes) : unit.places = 1 := by
  cases unit <;> first | contradiction | rfl

theorem div_factor_le (unit : SizeUnit) (n : Nat) : (n : Rat) / unit.factor ≤ n := by
  have one : (1 : Rat) ≤ unit.factor := by cases unit <;> simp [factor]
  exact div_le_self n.cast_nonneg one

theorem ofSize_of_isWhole {x : Binary64} (whole : x.IsWhole n) : ofSize x = reached n := by
  have reaches : ∀ f : Nat, f < 2 ^ 53 → ((Binary64.ofNat f).le x = true ↔ f ≤ n) := by
    intro f small
    rw [ofNat_eq_finite small, le_iff_of_isFinite rfl whole.isFinite, whole.value, value]
    norm_cast
  simp only [ofSize, reached, reaches _ (by decide : gibibytes.factor < 2 ^ 53),
    reaches _ (by decide : mebibytes.factor < 2 ^ 53), reaches _ (by decide : kibibytes.factor < 2 ^ 53)]

theorem reached_eq_bytes_iff : reached n = bytes ↔ n < 1024 := by
  unfold reached
  split_ifs <;> simp [factor] at * <;> omega

theorem factor_reached_le (n : Nat) : (reached n).factor ≤ max n 1 := by
  unfold reached
  split_ifs <;> simp only [factor] at * <;> omega

theorem le_factor_reached {unit : SizeUnit} (reaches : unit.factor ≤ max n 1) : unit.factor ≤ (reached n).factor := by
  unfold reached
  cases unit <;> split_ifs <;> simp only [factor] at * <;> omega

/-- Between two sizes the unit stays the same, or the smaller one ends before the larger one begins. -/
theorem reached_cases (order : n ≤ m) : reached n = reached m ∨
    n ≤ 1024 * (reached n).factor ∧ 1024 * (reached n).factor ≤ (reached m).factor ∧ (reached m).factor ≤ m := by
  by_cases same : reached n = reached m
  · exact .inl same
  · right
    revert same
    unfold reached
    split_ifs <;> simp only [factor] at * <;> intro _ <;> first | contradiction | omega

theorem shown_mul (unit : SizeUnit) (k : Nat) : unit.shown (k * unit.factor) = k := by
  have positive := unit.factor_pos
  have quotient : ((k * unit.factor : Nat) : Rat) / unit.factor * 10 ^ unit.places = (k * 10 ^ unit.places : Nat) := by
    push_cast
    field_simp
  rw [shown, quotient]
  have whole := roundHalfUp_intCast (k * 10 ^ unit.places : Nat)
  push_cast at whole ⊢
  rw [whole]
  push_cast
  field_simp

theorem shown_mono (unit : SizeUnit) (order : n ≤ m) : unit.shown n ≤ unit.shown m := by
  have positive := unit.factor_pos
  have quotients : (n : Rat) / unit.factor * 10 ^ unit.places ≤ m / unit.factor * 10 ^ unit.places := by gcongr
  have rounded : (roundHalfUp (n / unit.factor * 10 ^ unit.places) : Rat) ≤
      roundHalfUp (m / unit.factor * 10 ^ unit.places) := by exact_mod_cast roundHalfUp_mono quotients
  rw [shown, shown]
  gcongr

theorem shown_near (unit : SizeUnit) (n : Nat) :
    |unit.shown n * unit.factor - n| ≤ unit.factor / (2 * 10 ^ unit.places) := by
  have positive := unit.factor_pos
  have rounding := abs_roundHalfUp_sub_le ((n : Rat) / unit.factor * 10 ^ unit.places)
  have error : unit.shown n * unit.factor - n =
      (roundHalfUp (n / unit.factor * 10 ^ unit.places) - n / unit.factor * 10 ^ unit.places) *
        (unit.factor / 10 ^ unit.places) := by
    rw [shown]
    field_simp
  have scale : (0 : Rat) < unit.factor / 10 ^ unit.places := by positivity
  rw [error, abs_mul, abs_of_pos scale]
  calc _ ≤ 1 / 2 * (unit.factor / 10 ^ unit.places : Rat) := mul_le_mul_of_nonneg_right rounding scale.le
    _ = unit.factor / (2 * 10 ^ unit.places) := by ring

/-- A larger size does not count for less, in another unit either: what is rounded up in the smaller unit comes to one
of the larger at most. -/
theorem shown_reached_mono (order : n ≤ m) :
    (reached n).shown n * (reached n).factor ≤ (reached m).shown m * (reached m).factor := by
  rcases reached_cases order with same | ⟨most, between, least⟩
  · rw [same]
    exact mul_le_mul_of_nonneg_right ((reached m).shown_mono order) (reached m).factor_pos.le
  · have upper : (reached n).shown n ≤ 1024 := by
      have full := (reached n).shown_mul 1024
      exact ((reached n).shown_mono most).trans_eq (by exact_mod_cast full)
    have lower : 1 ≤ (reached m).shown m := by
      have one := (reached m).shown_mul 1
      rw [Nat.one_mul, Nat.cast_one] at one
      exact one.symm.le.trans ((reached m).shown_mono least)
    calc (reached n).shown n * (reached n).factor
        ≤ 1024 * (reached n).factor := mul_le_mul_of_nonneg_right upper (reached n).factor_pos.le
      _ ≤ (reached m).factor := by exact_mod_cast between
      _ ≤ (reached m).shown m * (reached m).factor := le_mul_of_one_le_left (reached m).factor_pos.le lower

end SizeUnit

/-! ## Texts -/

section Texts
variable {x : Binary64} {n : Nat}

theorem natCast_div_factor (small : n < 2 ^ 53) (unit : SizeUnit) :
    finite n / Binary64.ofNat unit.factor = finite (n / unit.factor) := by
  obtain ⟨k, less, power⟩ := unit.exists_factor_eq
  have factor : Binary64.ofNat unit.factor = finite unit.factor :=
    ofNat_eq_finite (power ▸ Nat.pow_lt_pow_right (by decide) (by omega))
  have exact : nearest ((n : Rat) / unit.factor) = n / unit.factor := by
    rw [power]
    push_cast
    exact nearest_natCast_div_pow small (by omega)
  rw [factor, finite_div n.cast_nonneg unit.factor_pos, ofRat_of_lt (by positivity), exact]
  exact lt_overflow_of_natCast_le (exact.trans_le (unit.div_factor_le n)) (by omega)

theorem amountText_of_ne_bytes {unit : SizeUnit} (larger : unit ≠ .bytes) (small : n < 2 ^ 53) :
    amountText unit (finite n) = alignRight 5 (fixedDigits unit.places (n / unit.factor)) := by
  have equation : amountText unit (finite n) =
      alignRight 5 ((finite n / Binary64.ofNat unit.factor).fixedText 1) := by
    cases unit <;> first | contradiction | rfl
  have most : (n : Rat) / unit.factor < 10 ^ 21 := (unit.div_factor_le n).trans_lt (natCast_lt_of_small small)
  rw [equation, SizeUnit.places_of_ne_bytes larger, natCast_div_factor small, fixedText_finite (by positivity) most]

theorem amountText_reached (whole : x.IsWhole n) (small : n < 2 ^ 53) :
    ∃ width, amountText (SizeUnit.reached n) x =
      alignRight width (fixedDigits (SizeUnit.reached n).places (n / (SizeUnit.reached n).factor)) := by
  by_cases few : n < 1024
  · refine ⟨3, ?_⟩
    rw [SizeUnit.reached_eq_bytes_iff.mpr few, amountText, fixedText_isWhole whole small]
    simp [SizeUnit.places, SizeUnit.factor]
  · obtain rfl : x = finite n := whole.eq_finite (by omega)
    exact ⟨5, amountText_of_ne_bytes (mt SizeUnit.reached_eq_bytes_iff.mp few) small⟩

theorem readSize?_aligned {amount : String} {q : Rat} (read : decimal? amount.toList = some q) (width : Nat)
    (unit : SizeUnit) : readSize? (alignRight width amount ++ " " ++ unit.symbol) = some (q, unit) := by
  have solid : ∀ c ∈ amount.toList, decide (c ≠ ' ') = true := by
    intro c member
    rcases isDigit_or_point_of_decimal? read c member with digit | rfl
    · exact decide_eq_true (by rintro rfl; cases digit)
    · decide
  have parts : (alignRight width amount ++ " " ++ unit.symbol).toList =
      List.replicate (width - amount.length) ' ' ++ (amount.toList ++ ' ' :: unit.symbol.toList) := by
    simp [alignRight, spaces]
  have start : (alignRight width amount ++ " " ++ unit.symbol).toList.dropWhile (· = ' ') =
      amount.toList ++ ' ' :: unit.symbol.toList := by
    rw [parts, List.dropWhile_append_of_pos (fun c member => by simpa using List.eq_of_mem_replicate member)]
    cases shown : amount.toList with
    | nil =>
      rw [shown] at read
      cases read
    | cons c rest =>
      have first := solid c (shown ▸ List.mem_cons_self)
      simpa using first
  rw [readSize?]
  simp only [start]
  rw [List.takeWhile_append_of_pos solid, List.dropWhile_append_of_pos solid]
  simp [read, SizeUnit.ofSymbol?_symbol]

theorem readSize?_sizeText (whole : x.IsWhole n) (small : n < 2 ^ 53) :
    readSize? (sizeText x) = some ((SizeUnit.reached n).shown n, SizeUnit.reached n) := by
  obtain ⟨width, aligned⟩ := amountText_reached whole small
  have unit := SizeUnit.ofSize_of_isWhole whole
  have read := decimal?_fixedDigits_of_nonneg (SizeUnit.reached n).places
    (div_nonneg n.cast_nonneg (SizeUnit.reached n).factor_pos.le)
  rw [sizeText, unit, aligned]
  exact readSize?_aligned read width _

/-- A size denotes what it says to within half of the last place that is shown, in the largest unit that it reaches, and
exactly where that is the byte.  A larger size never denotes less. -/
theorem sizeText_denotes (whole : x.IsWhole n) (small : n < 2 ^ 53) :
    ∃ (amount : Rat) (unit : SizeUnit), readSize? (sizeText x) = some (amount, unit) ∧
      unit.factor ≤ max n 1 ∧ (∀ other : SizeUnit, other.factor ≤ max n 1 → other.factor ≤ unit.factor) ∧
      |amount * unit.factor - n| ≤ unit.factor / 20 ∧ (n < 1024 → amount * unit.factor = n) ∧
      ∀ (y : Binary64) (m : Nat), y.IsWhole m → m < 2 ^ 53 → n ≤ m →
        ∃ (larger : Rat) (other : SizeUnit), readSize? (sizeText y) = some (larger, other) ∧
          amount * unit.factor ≤ larger * other.factor := by
  have exact : n < 1024 → (SizeUnit.reached n).shown n * (SizeUnit.reached n).factor = n := by
    intro few
    have same := SizeUnit.shown_mul .bytes n
    rw [SizeUnit.reached_eq_bytes_iff.mpr few]
    simpa [SizeUnit.factor] using same
  refine ⟨_, _, readSize?_sizeText whole small, SizeUnit.factor_reached_le n, fun _ => SizeUnit.le_factor_reached, ?_,
    exact, fun y m wholeY smallY order => ⟨_, _, readSize?_sizeText wholeY smallY, SizeUnit.shown_reached_mono order⟩⟩
  by_cases few : n < 1024
  · rw [exact few, sub_self, abs_zero]
    have positive := (SizeUnit.reached n).factor_pos
    positivity
  · have near := (SizeUnit.reached n).shown_near n
    have last : (2 * 10 ^ 1 : Rat) = 20 := by norm_num
    rwa [SizeUnit.places_of_ne_bytes (mt SizeUnit.reached_eq_bytes_iff.mp few), last] at near

/-- The last size in kibibytes is rounded up to one mebibyte, and denotes no more than that. -/
theorem sizeText_denotes_across_units :
    sizeText 1048575 = "1024.0 KiB" ∧ sizeText 1048576 = "  1.0 MiB" ∧
    ∃ amount unit larger other, readSize? (sizeText 1048575) = some (amount, unit) ∧
      readSize? (sizeText 1048576) = some (larger, other) ∧
      |amount * unit.factor - 1048575| ≤ unit.factor / 20 ∧ amount * unit.factor ≤ larger * other.factor := by
  obtain ⟨amount, unit, read, -, -, near, -, more⟩ :=
    sizeText_denotes (isWhole_ofNat (n := 1048575) (by decide)) (by decide)
  obtain ⟨larger, other, next, order⟩ := more _ _ (isWhole_ofNat (n := 1048576) (by decide)) (by decide) (by decide)
  exact ⟨by decide +kernel, by decide +kernel, amount, unit, larger, other, read, next, by exact_mod_cast near, order⟩

end Texts
end Report
end MeteredDownload
