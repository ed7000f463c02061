import Mathlib.Data.List.Induction
import Mathlib.Data.List.TakeWhile
import Mathlib.Data.Nat.Digits.Defs
import MeteredDownload.Numeric.Decimal
import MeteredDownload.Proofs.Exactness

/-!
# Numerals read back

A row of digits has a value by the places in which they stand (`placeValue`), and a decimal number with a point is that
of all its digits, divided by ten for each place behind the point (`decimal?`).  Reading is the way back from writing: a
whole number is the value of its own digits, and a number in fixed places is read as what it was rounded to
(`decimal?_fixedDigits`).
-/
set_option autoImplicit false
namespace MeteredDownload

open Numeric

namespace Numeric

theorem roundHalfUp_nonneg {q : Rat} (nonneg : 0 ≤ q) : 0 ≤ roundHalfUp q :=
  Rat.le_floor_iff.mpr (by push_cast; linarith)

end Numeric

namespace Text

def digit (c : Char) : Nat := c.toNat - '0'.toNat

def placeValue (row : List Char) : Nat := Nat.ofDigits 10 (row.reverse.map digit)

def decimal? (cs : List Char) : Option Rat :=
  let whole := cs.takeWhile (· ≠ '.')
  let places := (cs.dropWhile (· ≠ '.')).drop 1
  if whole ≠ [] ∧ (whole ++ places).all Char.isDigit = true then
    some (placeValue (whole ++ places) / 10 ^ places.length)
  else none

section Digits
variable {row cs : List Char}

theorem placeValue_eq (row : List Char) : placeValue row = Nat.ofDigitChars 10 row 0 := by
  induction row using List.reverseRecOn with
  | nil => rfl
  | append_singleton row c ih =>
    rw [Nat.ofDigitChars_append, ← ih]
    simp [placeValue, digit, Nat.ofDigits_cons, Nat.ofDigitChars_cons, Nat.add_comm]

theorem placeValue_zeros_append (zeros n : Nat) :
    placeValue (List.replicate zeros '0' ++ (toString n).toList) = n := by
  rw [placeValue_eq, Nat.ofDigitChars_append, Nat.toString_eq_repr, Nat.toList_repr]
  simp

theorem isDigit_of_mem_toString {n : Nat} {c : Char} (member : c ∈ (toString n).toList) : c.isDigit = true := by
  rw [Nat.toString_eq_repr, Nat.toList_repr] at member
  exact Nat.isDigit_of_mem_toDigits (by decide) (by decide) member

theorem ne_of_isDigit {c d : Char} (digits : ∀ c ∈ row, c.isDigit = true) (other : d.isDigit = false)
    (member : c ∈ row) : c ≠ d := by
  rintro rfl
  rw [digits c member] at other
  cases other

theorem decimal?_of_digits (some_digit : row ≠ []) (digits : ∀ c ∈ row, c.isDigit = true) :
    decimal? row = some (placeValue row : Rat) := by
  have pointless : ∀ c ∈ row, decide (c ≠ '.') = true :=
    fun c member => decide_eq_true (ne_of_isDigit digits (by decide) member)
  have whole : row.takeWhile (· ≠ '.') = row := List.takeWhile_eq_self_iff.mpr pointless
  have rest : row.dropWhile (· ≠ '.') = [] := List.dropWhile_eq_nil_iff.mpr pointless
  rw [decimal?]
  simp only [whole, rest]
  rw [if_pos ⟨some_digit, by simpa using digits⟩]
  simp

theorem decimal?_pointed {point : Nat} (some_digit : 0 < point) (within : point ≤ row.length)
    (digits : ∀ c ∈ row, c.isDigit = true) :
    decimal? (Decimal.pointed row point) = some (placeValue row / 10 ^ (row.length - point) : Rat) := by
  have pointless : ∀ c ∈ row.take point, decide (c ≠ '.') = true :=
    fun c member => decide_eq_true (ne_of_isDigit digits (by decide) (List.mem_of_mem_take member))
  have whole : (Decimal.pointed row point).takeWhile (· ≠ '.') = row.take point := by
    rw [Decimal.pointed, List.takeWhile_append_of_pos pointless]
    simp
  have rest : (Decimal.pointed row point).dropWhile (· ≠ '.') = '.' :: row.drop point := by
    rw [Decimal.pointed, List.dropWhile_append_of_pos pointless]
    simp
  have front : row.take point ≠ [] := by
    intro none
    have length := congrArg List.length none
    rw [List.length_take, List.length_nil] at length
    omega
  rw [decimal?]
  simp only [whole, rest, List.drop_one, List.tail_cons, List.take_append_drop, List.length_drop]
  rw [if_pos ⟨front, List.all_eq_true.mpr digits⟩]

theorem isDigit_or_point_of_decimal? {q : Rat} (read : decimal? cs = some q) :
    ∀ c ∈ cs, c.isDigit = true ∨ c = '.' := by
  rw [decimal?] at read
  split_ifs at read with form
  have digits := List.all_eq_true.mp form.2
  have first := List.head?_dropWhile_not (fun c => decide (c ≠ '.')) cs
  have parts : cs.takeWhile (· ≠ '.') ++ cs.dropWhile (· ≠ '.') = cs := List.takeWhile_append_dropWhile
  intro c member
  rw [← parts] at member
  rcases List.mem_append.mp member with front | back
  · exact .inl (digits c (List.mem_append_left _ front))
  · cases rest : cs.dropWhile (· ≠ '.') with
    | nil =>
      rw [rest] at back
      cases back
    | cons point behind =>
      rw [rest] at first back
      rcases List.mem_cons.mp back with rfl | later
      · exact .inr (by simpa using first)
      · exact .inl (digits c (List.mem_append_right _ (by rwa [rest])))

end Digits

theorem decimal?_fixedDigits (places : Nat) (q : Rat) :
    decimal? (Binary64.fixedDigits places q).toList =
      some ((roundHalfUp (q * 10 ^ places)).toNat / 10 ^ places : Rat) := by
  unfold Binary64.fixedDigits
  dsimp only
  generalize (roundHalfUp (q * 10 ^ places)).toNat = scaled
  generalize padding : places + 1 - (toString scaled).toList.length = zeros
  have digits : ∀ c ∈ List.replicate zeros '0' ++ (toString scaled).toList, c.isDigit = true := by
    intro c member
    rcases List.mem_append.mp member with zero | own
    · rw [List.eq_of_mem_replicate zero]
      rfl
    · exact isDigit_of_mem_toString own
  have value := placeValue_zeros_append zeros scaled
  -- The zeros in front leave a digit before the point, however small the number is.
  have length : places < (List.replicate zeros '0' ++ (toString scaled).toList).length := by
    rw [List.length_append, List.length_replicate]
    omega
  generalize List.replicate zeros '0' ++ (toString scaled).toList = row at *
  split_ifs with none <;> rw [String.toList_ofList]
  · rw [decimal?_of_digits (List.length_pos_iff.mp (by omega)) digits, value, none]
    simp
  · have behind : row.length - (row.length - places) = places := by omega
    rw [decimal?_pointed (by omega) (by omega) digits, value, behind]

theorem decimal?_fixedDigits_of_nonneg (places : Nat) {q : Rat} (nonneg : 0 ≤ q) :
    decimal? (Binary64.fixedDigits places q).toList = some (roundHalfUp (q * 10 ^ places) / 10 ^ places : Rat) := by
  have scaled : 0 ≤ roundHalfUp (q * 10 ^ places) := roundHalfUp_nonneg (by positivity)
  have number : (((roundHalfUp (q * 10 ^ places)).toNat : Nat) : Rat) = roundHalfUp (q * 10 ^ places) := by
    exact_mod_cast Int.toNat_of_nonneg scaled
  rw [decimal?_fixedDigits, number]

end Text

namespace Numeric.Binary64

theorem natCast_lt_of_small {n : Nat} (small : n < 2 ^ 53) : (n : Rat) < 10 ^ 21 :=
  calc (n : Rat) < 2 ^ 53 := by exact_mod_cast small
    _ < 10 ^ 21 := by norm_num

theorem fixedText_finite {q : Rat} (nonneg : 0 ≤ q) (most : q < 10 ^ 21) (places : Nat) :
    (finite q).fixedText places = fixedDigits places q := by
  have moderate : ¬ (10 : Rat) ^ (21 : Nat) ≤ magnitude q := (magnitude_of_nonneg nonneg).symm ▸ not_le.mpr most
  rw [fixedText, if_neg moderate, if_neg (not_lt.mpr nonneg)]

theorem fixedText_isWhole {x : Binary64} {n : Nat} (whole : x.IsWhole n) (small : n < 2 ^ 53) (places : Nat) :
    x.fixedText places = fixedDigits places n := by
  rcases whole with rfl | ⟨rfl, zero⟩
  · exact fixedText_finite n.cast_nonneg (natCast_lt_of_small small) places
  · obtain rfl : n = 0 := by omega
    rw [Nat.cast_zero]
    rfl

end Numeric.Binary64
end MeteredDownload
