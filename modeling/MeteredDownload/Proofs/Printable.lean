import MeteredDownload.Proofs.Numeral
import MeteredDownload.Report.Snapshot

/-!
# What status lines are made of

Every character of a status line is a printable one: it fills one column of a terminal and does nothing else.
The numbers of a line are digits, points and signs, or the names of the values that have no digits; all else is
text that is the same in every line.
-/
set_option autoImplicit false
namespace MeteredDownload

namespace Text

def isPrintable (c : Char) : Bool := Nat.ble 32 c.toNat && Nat.ble c.toNat 126

def Printable (cs : List Char) : Prop := ∀ c ∈ cs, isPrintable c = true

instance : DecidablePred Printable := fun cs => decidable_of_iff (cs.all isPrintable = true) List.all_eq_true

section Printable
variable {cs ds : List Char} {s : String}

@[simp] theorem printable_append : Printable (cs ++ ds) ↔ Printable cs ∧ Printable ds := List.forall_mem_append

@[simp] theorem printable_cons {c : Char} : Printable (c :: cs) ↔ isPrintable c = true ∧ Printable cs :=
  List.forall_mem_cons

theorem Printable.sublist (printable : Printable ds) (part : cs.Sublist ds) : Printable cs :=
  fun c member => printable c (part.subset member)

theorem printable_replicate (n : Nat) {c : Char} (shown : isPrintable c = true) :
    Printable (List.replicate n c) := by
  intro d member
  rwa [List.eq_of_mem_replicate member]

theorem isPrintable_of_isDigit {c : Char} (digit : c.isDigit = true) : isPrintable c = true := by
  simp only [Char.isDigit, Bool.and_eq_true, decide_eq_true_eq] at digit
  simp only [isPrintable, Bool.and_eq_true, Nat.ble_eq]
  exact ⟨Nat.le_trans (by decide) digit.1, Nat.le_trans digit.2 (by decide)⟩

theorem printable_toString (n : Nat) : Printable (toString n).toList :=
  fun _ member => isPrintable_of_isDigit (isDigit_of_mem_toString member)

theorem printable_spaces (n : Nat) : Printable (spaces n).toList := by
  rw [spaces, String.toList_ofList]
  exact printable_replicate n rfl

theorem printable_alignRight (width : Nat) (printable : Printable s.toList) :
    Printable (alignRight width s).toList := by
  rw [alignRight, String.toList_append, printable_append]
  exact ⟨printable_spaces _, printable⟩

end Printable

end Text

namespace Numeric
open Text

namespace Decimal

theorem printable_pointed {digits : List Char} (printable : Printable digits) (point : Nat) :
    Printable (pointed digits point) := by
  rw [pointed, printable_append, printable_cons]
  exact ⟨printable.sublist (List.take_sublist ..), rfl, printable.sublist (List.drop_sublist ..)⟩

theorem printable_layout {digits : List Char} (printable : Printable digits) (point : Int) :
    Printable (layout digits point) := by
  unfold layout
  split
  · exact printable_append.mpr ⟨printable, printable_replicate _ rfl⟩
  split
  · exact printable_pointed printable _
  split
  · simp only [printable_append, printable, and_true]
    exact ⟨by decide, printable_replicate _ rfl⟩
  · have mantissa : Printable (if digits.length ≤ 1 then digits else pointed digits 1) := by
      split
      · exact printable
      · exact printable_pointed printable 1
    have sign : Printable ['e', if point - 1 < 0 then '-' else '+'] := by
      split <;> decide
    exact printable_append.mpr ⟨printable_append.mpr ⟨mantissa, sign⟩, printable_toString _⟩

theorem printable_text (q : Rat) : Printable (text q).toList := by
  rw [text, String.toList_ofList]
  apply printable_layout
  have digits := printable_toString (shortest q).digits
  intro c member
  exact digits c (List.mem_reverse.mp ((List.dropWhile_sublist _).subset (List.mem_reverse.mp member)))

end Decimal

namespace Binary64

theorem printable_text (x : Binary64) : Printable x.text.toList := by
  unfold text
  split
  · decide
  · split <;> decide
  · decide
  · split
    · decide
    split
    · rw [String.toList_append, printable_append]
      exact ⟨by decide, Decimal.printable_text _⟩
    · exact Decimal.printable_text _

theorem printable_fixedDigits (places : Nat) (q : Rat) : Printable (fixedDigits places q).toList := by
  have padded : Printable (List.replicate
      (places + 1 - (toString (roundHalfUp (q * (10 : Rat) ^ places)).toNat).toList.length) '0' ++
      (toString (roundHalfUp (q * (10 : Rat) ^ places)).toNat).toList) :=
    printable_append.mpr ⟨printable_replicate _ rfl, printable_toString _⟩
  unfold fixedDigits
  dsimp only
  split <;> rw [String.toList_ofList]
  · exact padded
  · exact Decimal.printable_pointed padded _

theorem printable_fixedText (places : Nat) (x : Binary64) : Printable (x.fixedText places).toList := by
  unfold fixedText
  split
  · split
    · exact printable_text _
    split
    · rw [String.toList_append, printable_append]
      exact ⟨by decide, printable_fixedDigits _ _⟩
    · exact printable_fixedDigits _ _
  · exact printable_fixedDigits _ _
  · exact printable_text _

end Binary64
end Numeric

namespace Report
open Text

theorem printable_sizeText (size : Numeric.Binary64) : Printable (sizeText size).toList := by
  have amount : Printable (amountText (SizeUnit.ofSize size) size).toList := by
    unfold amountText
    split <;> exact printable_alignRight _ (Numeric.Binary64.printable_fixedText _ _)
  have symbol : Printable (SizeUnit.ofSize size).symbol.toList := by
    cases SizeUnit.ofSize size <;> decide
  simp only [sizeText, String.toList_append, printable_append]
  exact ⟨⟨amount, by decide⟩, symbol⟩

theorem printable_rateText (rate : Numeric.Binary64) : Printable (rateText rate).toList := by
  rw [rateText, String.toList_append, printable_append]
  exact ⟨printable_sizeText rate, by decide⟩

theorem printable_component (width : Nat) (amount : Numeric.Binary64) (letter : String)
    (printable : Printable letter.toList) : Printable (Duration.component width amount letter).toList := by
  rw [Duration.component, String.toList_append, printable_append]
  exact ⟨printable_alignRight _ (Numeric.Binary64.printable_text _), printable⟩

theorem printable_durationText (seconds : Numeric.Binary64) : Printable (durationText seconds).toList := by
  have days := printable_component 3 (Duration.ofSeconds seconds).days "d " (by decide)
  have hours := printable_component 2 (Duration.ofSeconds seconds).hours "h " (by decide)
  have minutes := printable_component 2 (Duration.ofSeconds seconds).minutes "m " (by decide)
  have rest := printable_component 2 (Duration.ofSeconds seconds).seconds "s" (by decide)
  unfold durationText Duration.text
  dsimp only
  split
  · simp only [String.toList_append, printable_append, days, hours, minutes, rest, and_self]
  split
  · simp only [String.toList_append, printable_append, hours, minutes, rest, and_self]
  split
  · simp only [String.toList_append, printable_append, minutes, rest, and_self]
  · exact rest

theorem printable_percentText (percent : Numeric.Binary64) : Printable (Snapshot.percentText percent).toList :=
  printable_alignRight _ (Numeric.Binary64.printable_fixedText _ _)

theorem printable_line (snapshot : Snapshot) : Printable snapshot.line.toList := by
  unfold Snapshot.line
  dsimp only
  split
  · simp only [String.toList_append, printable_append, printable_sizeText, printable_rateText,
      printable_durationText, and_true]
    decide
  · simp only [String.toList_append, printable_append, printable_sizeText, printable_rateText,
      printable_durationText, printable_percentText, and_true, true_and]
    decide

end Report
end MeteredDownload
