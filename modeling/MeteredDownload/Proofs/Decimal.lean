import MeteredDownload.Numeric.Decimal
import MeteredDownload.Proofs.Exactness

/-!
# Texts of whole numbers

The shortest digits that read back as a whole number below `2 ^ 53` are its own digits, without the zeros at their end
(`Decimal.shortest_natCast`): every other whole number reads back as another one.  The layout puts the zeros back, so
the text of the number is its decimal numeral (`Binary64.text_natCast`).
-/
set_option autoImplicit false
namespace MeteredDownload.Numeric

namespace Decimal

theorem readsBack_of_onGrid? {q : Rat} {exponent : Int} {d : Decimal} (found : onGrid? q exponent = some d) :
    d.exponent = exponent ∧ nearest d.value = q := by
  unfold onGrid? at found
  dsimp only at found
  unfold value
  split at found
  · cases found
  · next below _ =>
    cases found
    exact ⟨rfl, of_decide_eq_true below⟩
  · next above =>
    cases found
    refine ⟨rfl, ?_⟩
    push_cast at above ⊢
    exact of_decide_eq_true above
  · next below above =>
    split at found <;> cases found
    · exact ⟨rfl, of_decide_eq_true below⟩
    · refine ⟨rfl, ?_⟩
      push_cast at above ⊢
      exact of_decide_eq_true above

theorem exists_onGrid?_of_below {q : Rat} {exponent : Int}
    (below : nearest ((q / (10 : Rat) ^ exponent).floor.toNat * (10 : Rat) ^ exponent) = q) :
    (onGrid? q exponent).isSome = true := by
  unfold onGrid?
  dsimp only
  split
  · next no _ => exact absurd below (of_decide_eq_false no)
  · rfl
  · rfl
  · split <;> rfl

theorem scale_natCast {n : Nat} (positive : 0 < n) (small : n < 2 ^ 53) :
    1 ≤ scale n ∧ scale n ≤ 17 := by
  have most := floorLog2_natCast_le small
  have whole : (1 : Rat) ≤ n := by exact_mod_cast positive
  have least : 0 ≤ floorLog2 (n : Rat) := by
    have powers : (2 : Rat) ^ (0 : Int) < 2 ^ (floorLog2 (n : Rat) + 1) := by
      rw [zpow_zero]
      exact whole.trans_lt (floorLog2_spec (lt_of_lt_of_le one_pos whole)).2
    have order := (zpow_lt_zpow_iff_right₀ one_lt_two).mp powers
    omega
  unfold scale
  dsimp only
  generalize guessed : floorLog2 (n : Rat) * 30103 / 100000 = guess
  have bounds : 0 ≤ guess ∧ guess ≤ 15 := by omega
  split_ifs with low high
  · refine ⟨?_, by omega⟩
    by_contra none
    have zero : guess = 0 := by omega
    rw [zero, zpow_zero] at low
    linarith
  · omega
  · omega

theorem eq_of_nearest_natCast {m n : Nat} (small : n < 2 ^ 53) (same : nearest (m : Rat) = n) : m = n := by
  by_cases within : m < 2 ^ 53
  · rw [nearest_natCast within] at same
    exact_mod_cast same
  · have rounded := two_pow_le_nearest (not_lt.mp within)
    rw [same] at rounded
    exact absurd (by exact_mod_cast rounded) (not_le.mpr small)

theorem shortest_natCast {n : Nat} (positive : 0 < n) (small : n < 2 ^ 53) :
    ∃ j : Nat, (shortest n).exponent = j ∧ (shortest n).digits * 10 ^ j = n := by
  obtain ⟨least, most⟩ := scale_natCast positive small
  obtain ⟨k, scaled⟩ := Int.eq_ofNat_of_zero_le (sub_nonneg.mpr least)
  -- The number itself is on the grid of the whole numbers, so the search ends there at the latest.
  have own : (onGrid? n (scale n - 1 - k)).isSome = true := by
    have units : scale (n : Rat) - 1 - k = 0 := by omega
    have whole : (n : Rat).floor = n := by exact_mod_cast Rat.floor_intCast n
    refine exists_onGrid?_of_below ?_
    rw [units, zpow_zero, div_one, whole, Int.toNat_natCast, mul_one]
    exact nearest_natCast small
  unfold shortest
  dsimp only
  split
  · next d found =>
    obtain ⟨before, i, after, tried, here, none⟩ := List.findSome?_eq_some_iff.mp found
    have early : i ≤ k := by
      by_contra late
      have inside : k ∈ before := by
        have member : k ∈ before ++ i :: after := tried ▸ List.mem_range.mpr (by omega)
        have sorted : (before ++ i :: after).Pairwise (· < ·) := tried ▸ List.pairwise_lt_range
        rcases List.mem_append.mp member with first | rest
        · exact first
        · rcases List.mem_cons.mp rest with same | behind
          · omega
          · have order := List.rel_of_pairwise_cons (List.pairwise_append.mp sorted).2.1 behind
            omega
      rw [none k inside] at own
      cases own
    obtain ⟨exponent, back⟩ := readsBack_of_onGrid? here
    refine ⟨k - i, by omega, ?_⟩
    have power : d.exponent = (k - i : Nat) := by omega
    have number : d.value = (d.digits * 10 ^ (k - i) : Nat) := by
      rw [value, power, zpow_natCast]
      push_cast
      rfl
    exact eq_of_nearest_natCast small (number ▸ back)
  · next nothing =>
    have member : k ∈ List.range 17 := List.mem_range.mpr (by omega)
    rw [List.findSome?_eq_none_iff.mp nothing k member] at own
    cases own

/-! ## The layout -/

theorem toDigits_mul_pow {n : Nat} (positive : 0 < n) (j : Nat) :
    Nat.toDigits 10 (n * 10 ^ j) = Nat.toDigits 10 n ++ List.replicate j '0' := by
  induction j with
  | zero => simp
  | succ j ih =>
    have shifted : n * 10 ^ (j + 1) = 10 * (n * 10 ^ j) + 0 := by ring
    have zero : Nat.toDigits 10 0 = ['0'] := rfl
    rw [shifted, ← Nat.toDigits_append_toDigits (by decide) (by positivity) (by decide), ih, zero, List.append_assoc,
      List.replicate_succ']

theorem trimmed_append_zeros (digits : List Char) :
    let trimmed := (digits.reverse.dropWhile (· = '0')).reverse
    trimmed.length ≤ digits.length ∧
      trimmed ++ List.replicate (digits.length - trimmed.length) '0' = digits := by
  intro trimmed
  have cut : digits = trimmed ++ (digits.reverse.takeWhile (· = '0')).reverse := by
    rw [← List.reverse_append, List.takeWhile_append_dropWhile, List.reverse_reverse]
  have zeros : (digits.reverse.takeWhile (· = '0')).reverse =
      List.replicate (digits.reverse.takeWhile (· = '0')).length '0' := by
    rw [List.eq_replicate_iff]
    refine ⟨List.length_reverse, fun c member => ?_⟩
    simpa using List.all_eq_true.mp List.all_takeWhile c (List.mem_reverse.mp member)
  have length : digits.length = trimmed.length + (digits.reverse.takeWhile (· = '0')).length := by
    simpa using congrArg List.length cut
  refine ⟨by omega, ?_⟩
  have rest : digits.length - trimmed.length = (digits.reverse.takeWhile (· = '0')).length := by omega
  rw [rest, ← zeros]
  exact cut.symm

theorem text_natCast {n : Nat} (positive : 0 < n) (small : n < 2 ^ 53) : text n = toString n := by
  obtain ⟨j, exponent, number⟩ := shortest_natCast positive small
  have digits_pos : 0 < (shortest n).digits := by
    by_contra none
    rw [Nat.eq_zero_of_not_pos none, Nat.zero_mul] at number
    omega
  have numeral : Nat.toDigits 10 n = Nat.toDigits 10 (shortest n).digits ++ List.replicate j '0' := by
    rw [← toDigits_mul_pow digits_pos, number]
  obtain ⟨shorter, restored⟩ := trimmed_append_zeros (Nat.toDigits 10 (shortest n).digits)
  generalize cut : ((Nat.toDigits 10 (shortest n).digits).reverse.dropWhile (· = '0')).reverse = trimmed at *
  have places : (Nat.toDigits 10 n).length ≤ 16 :=
    (Nat.length_toDigits_le_iff (by decide) (by decide)).mpr (small.trans (by decide))
  have length : (Nat.toDigits 10 n).length = (Nat.toDigits 10 (shortest n).digits).length + j := by
    rw [numeral, List.length_append, List.length_replicate]
  have point : ((Nat.toDigits 10 (shortest n).digits).length : Int) + (shortest n).exponent =
      (Nat.toDigits 10 n).length := by
    rw [exponent, length, Nat.cast_add]
  have zeros : (Nat.toDigits 10 n).length - trimmed.length =
      (Nat.toDigits 10 (shortest n).digits).length - trimmed.length + j := by omega
  have plain : ((trimmed.length : Int) ≤ ((Nat.toDigits 10 n).length : Int) ∧
      ((Nat.toDigits 10 n).length : Int) ≤ 21) := by omega
  rw [← String.toList_inj, text, String.toList_ofList, significand]
  simp only [Nat.toString_eq_repr, Nat.toList_repr, cut, point]
  rw [layout, if_pos plain, Int.toNat_natCast, zeros, List.replicate_add, ← List.append_assoc, restored, numeral]

end Decimal

namespace Binary64

theorem text_natCast {n : Nat} (small : n < 2 ^ 53) : (finite n).text = toString n := by
  rcases Nat.eq_zero_or_pos n with rfl | positive
  · rfl
  · have above : ¬ (n : Rat) < 0 := not_lt.mpr n.cast_nonneg
    have nonzero : ¬ (n : Rat) = 0 := Nat.cast_ne_zero.mpr positive.ne'
    rw [text, if_neg nonzero, if_neg above, Decimal.text_natCast positive small]

end Binary64
end MeteredDownload.Numeric
