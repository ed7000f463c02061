import MeteredDownload.Http.ContentLength
import MeteredDownload.Proofs.Numeral

/-!
# Announced lengths

A header announces a number if it is a row of decimal digits with that value, blanks around it aside (`Announces`).  The
value is the exact one, by the places of the digits, for rows of any length.  Rounding it to a binary number does not
take it across `2 ^ 53`, on either side (`isExactInteger_ofNat`), so the numbers below are accepted as they are and no
others (`contentLength?_announced`).
-/
set_option autoImplicit false
namespace MeteredDownload

open Numeric

theorem Numeric.Binary64.isExactInteger_ofNat (n : Nat) : (ofNat n).isExactInteger = decide (n < 2 ^ 53) := by
  have limit : (maxExactInteger : Rat) + 1 = 2 ^ 53 := by norm_num [maxExactInteger]
  by_cases small : n < 2 ^ 53
  · have most : (n : Rat) ≤ maxExactInteger := by exact_mod_cast Nat.le_pred_of_lt small
    rw [ofNat_eq_finite small, decide_eq_true small]
    simp [isExactInteger, isInteger, value, magnitude_natCast, most]
  · have large := two_pow_le_nearest (not_lt.mp small)
    have above : ¬ nearest n ≤ maxExactInteger := by linarith
    rw [ofNat, ofRat_of_nonneg n.cast_nonneg, decide_eq_false small]
    split_ifs
    · rfl
    · simp [isExactInteger, value, magnitude_of_nonneg (nearest_nonneg n.cast_nonneg), above]

/-! ## Blanks around a text -/

namespace Text

theorem not_isBlank_of_isDigit {c : Char} (digit : c.isDigit = true) : isBlank c = false := by
  have bounds : 48 ≤ c.toNat ∧ c.toNat ≤ 57 := by
    simp only [Char.isDigit, Bool.and_eq_true, decide_eq_true_eq] at digit
    exact digit
  have apart : ∀ d : Char, d.toNat < 48 ∨ 57 < d.toNat → c ≠ d := by
    rintro d outside rfl
    omega
  have order : ∀ d : Char, (d ≤ c ↔ d.toNat ≤ c.toNat) ∧ (c ≤ d ↔ c.toNat ≤ d.toNat) := fun d => ⟨Iff.rfl, Iff.rfl⟩
  simp [isBlank, apart, order]
  omega

theorem trim_of_blanks {before row after : List Char} (blank : ∀ c ∈ before ++ after, isBlank c = true)
    (solid : ∀ c ∈ row, isBlank c = false) (some : row ≠ []) : trim (before ++ row ++ after) = row := by
  obtain ⟨ahead, behind⟩ := List.forall_mem_append.mp blank
  have start : trimStart (before ++ row ++ after) = row ++ after := by
    obtain ⟨c, rest, rfl⟩ := List.exists_cons_of_ne_nil some
    have first : isBlank c = false := solid c List.mem_cons_self
    rw [trimStart, List.append_assoc, List.dropWhile_append_of_pos ahead]
    simp [first]
  rw [trim, start, trimEnd, List.reverse_append, List.dropWhile_append_of_pos (by simpa using behind)]
  obtain ⟨rest, c, rfl⟩ := List.eq_nil_or_concat row |>.resolve_left some
  have last : isBlank c = false := solid c (by simp)
  simp [last]

theorem exists_trim (cs : List Char) :
    ∃ before after, cs = before ++ trim cs ++ after ∧ ∀ c ∈ before ++ after, isBlank c = true := by
  refine ⟨cs.takeWhile isBlank, ((trimStart cs).reverse.takeWhile isBlank).reverse, ?_, ?_⟩
  · rw [trim, trimEnd, List.append_assoc, ← List.reverse_append, List.takeWhile_append_dropWhile, List.reverse_reverse,
      trimStart, List.takeWhile_append_dropWhile]
  · intro c member
    rcases List.mem_append.mp member with ahead | behind
    · exact List.all_eq_true.mp List.all_takeWhile c ahead
    · exact List.all_eq_true.mp List.all_takeWhile c (List.mem_reverse.mp behind)

end Text

/-! ## Headers -/

namespace Http
open Text

/-- The header is a row of decimal digits of this value, with blanks around it or none. -/
def Announces (header : String) (n : Nat) : Prop :=
  ∃ before row after, header.toList = before ++ row ++ after ∧ (∀ c ∈ before ++ after, isBlank c = true) ∧
    row ≠ [] ∧ (∀ c ∈ row, c.isDigit = true) ∧ placeValue row = n

theorem decimalValue_eq (row : List Char) : decimalValue row = placeValue row := by
  rw [placeValue_eq, Nat.ofDigitChars_eq_foldl]
  rfl

theorem announces_iff {header : String} {n : Nat} : Announces header n ↔
    trim header.toList ≠ [] ∧ (∀ c ∈ trim header.toList, c.isDigit = true) ∧ decimalValue (trim header.toList) = n := by
  constructor
  · rintro ⟨before, row, after, parts, blank, some, digits, rfl⟩
    have trimmed : trim header.toList = row := by
      rw [parts]
      exact trim_of_blanks blank (fun c member => not_isBlank_of_isDigit (digits c member)) some
    rw [trimmed]
    exact ⟨some, digits, decimalValue_eq row⟩
  · rintro ⟨some, digits, rfl⟩
    obtain ⟨before, after, parts, blank⟩ := exists_trim header.toList
    exact ⟨before, _, after, parts, blank, some, digits, (decimalValue_eq _).symm⟩

theorem Announces.contentLength? {header : String} {n : Nat} (announces : Announces header n) :
    contentLength? header = if n < 2 ^ 53 then some (.finite n) else none := by
  obtain ⟨some, digits, rfl⟩ := announces_iff.mp announces
  have row : (!(trim header.toList).isEmpty && (trim header.toList).all Char.isDigit) = true := by
    simpa using ⟨some, digits⟩
  unfold Http.contentLength?
  dsimp only
  rw [row, Bool.true_and, Binary64.isExactInteger_ofNat]
  simp only [decide_eq_true_eq]
  split_ifs with small
  · rw [Binary64.ofNat_eq_finite small]
  · rfl

theorem announces_of_contentLength? {header : String} {x : Binary64} (found : contentLength? header = some x) :
    ∃ n, Announces header n := by
  unfold Http.contentLength? at found
  dsimp only at found
  split at found
  · next checks =>
    simp only [Bool.and_eq_true, Bool.not_eq_true', List.isEmpty_eq_false_iff, List.all_eq_true] at checks
    exact ⟨_, announces_iff.mpr ⟨checks.1.1, checks.1.2, rfl⟩⟩
  · cases found

/-- The length that a header announces is known if and only if it is below `2 ^ 53`, and then it is known exactly.  No
other header, and no missing one, has a length. -/
theorem contentLength?_announced (header? : Option String) :
    (∀ x, header?.bind contentLength? = some x ↔
      ∃ header ∈ header?, ∃ n : Nat, Announces header n ∧ n < 2 ^ 53 ∧ x = .finite n) ∧
    ∀ header ∈ header?, ∀ n : Nat, Announces header n →
      header?.bind contentLength? = if n < 2 ^ 53 then some (.finite n) else none := by
  have announced : ∀ header ∈ header?, ∀ n : Nat, Announces header n →
      header?.bind contentLength? = if n < 2 ^ 53 then some (.finite n) else none := by
    rintro header rfl n announces
    exact announces.contentLength?
  refine ⟨fun x => ⟨fun found => ?_, ?_⟩, announced⟩
  · obtain ⟨header, rfl, known⟩ := Option.bind_eq_some_iff.mp found
    obtain ⟨n, announces⟩ := announces_of_contentLength? known
    rw [announces.contentLength?] at known
    split_ifs at known with small
    exact ⟨header, rfl, n, announces, small, (Option.some.inj known).symm⟩
  · rintro ⟨header, present, n, announces, small, rfl⟩
    rw [announced header present n announces, if_pos small]

/-- Zeros in front and blanks around make no difference, and the first number that is refused is `2 ^ 53`. -/
theorem contentLength?_announced_of_zeros :
    contentLength? "\t0042\r\n" = some (.finite 42) ∧ contentLength? "9007199254740992" = none := by
  have zeros : Announces "\t0042\r\n" 42 :=
    ⟨['\t'], ['0', '0', '4', '2'], ['\r', '\n'], rfl, List.all_eq_true.mp (by decide), by decide,
      List.all_eq_true.mp (by decide), by decide⟩
  have large : Announces "9007199254740992" (2 ^ 53) :=
    ⟨[], "9007199254740992".toList, [], by simp, by simp, by decide, List.all_eq_true.mp (by decide), by decide⟩
  exact ⟨(contentLength?_announced (some _)).2 _ rfl _ zeros, (contentLength?_announced (some _)).2 _ rfl _ large⟩

end Http
end MeteredDownload
