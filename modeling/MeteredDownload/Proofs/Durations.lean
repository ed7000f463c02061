import MeteredDownload.Proofs.Legible

/-!
# Durations read back

Splitting whole seconds below `2 ^ 53` is exact, so the components add up to what was split.  A text of parts is read
from its front to its end: digits make up a number, and a letter adds as much of what it names (`Reading.next`).  The
reading is taken through one part, then by induction through any parts with spaces between them, so the layouts need no
separate arguments: the parts that are left out at the front count nothing.
-/
set_option autoImplicit false
namespace MeteredDownload.Report.Duration

open Numeric Text Binary64

structure Part where
  amount : Nat
  width : Nat
  letter : Char

def secondsPer : Char → Nat
  | 'd' => 86400
  | 'h' => 3600
  | 'm' => 60
  | 's' => 1
  | _ => 0

namespace Part

def text (p : Part) : String := alignRight p.width (toString p.amount) ++ String.ofList [p.letter]

def seconds (p : Part) : Nat := p.amount * secondsPer p.letter

end Part

/-- The parts from the first one of days, hours and minutes that is above zero; seconds always show. -/
def parts (days hours minutes seconds : Nat) : List Part :=
  [⟨days, 3, 'd'⟩, ⟨hours, 2, 'h'⟩, ⟨minutes, 2, 'm'⟩].dropWhile (·.amount = 0) ++ [⟨seconds, 2, 's'⟩]

structure Reading where
  seconds : Nat
  amount : Nat

def Reading.next (r : Reading) (c : Char) : Reading :=
  if c.isDigit = true then ⟨r.seconds, 10 * r.amount + digit c⟩
  else ⟨r.seconds + r.amount * secondsPer c, 0⟩

def Reading.run (r : Reading) (cs : List Char) : Reading := cs.foldl next r

def secondsIn (text : String) : Nat := (Reading.run ⟨0, 0⟩ text.toList).seconds

/-! ## Reading -/

namespace Reading
variable {row : List Char} (total : Nat)

theorem run_append (r : Reading) (front back : List Char) : r.run (front ++ back) = (r.run front).run back :=
  List.foldl_append

theorem next_letter {c : Char} (letter : c.isDigit = false) (amount : Nat) :
    next ⟨total, amount⟩ c = ⟨total + amount * secondsPer c, 0⟩ := by
  rw [next, if_neg (by simp [letter])]

theorem run_digits (digits : ∀ c ∈ row, c.isDigit = true) (amount : Nat) :
    run ⟨total, amount⟩ row = ⟨total, Nat.ofDigitChars 10 row amount⟩ := by
  induction row generalizing amount with
  | nil => rfl
  | cons c row ih =>
    have first : next ⟨total, amount⟩ c = ⟨total, 10 * amount + digit c⟩ := if_pos (digits c List.mem_cons_self)
    rw [Nat.ofDigitChars_cons]
    change run (next ⟨total, amount⟩ c) row = _
    rw [first]
    exact ih (fun d later => digits d (List.mem_cons_of_mem c later)) _

theorem run_spaces (n : Nat) : run ⟨total, 0⟩ (List.replicate n ' ') = ⟨total, 0⟩ := by
  induction n with
  | zero => rfl
  | succ n ih =>
    rw [List.replicate_succ]
    change run (next ⟨total, 0⟩ ' ') (List.replicate n ' ') = _
    rw [next_letter total (by decide), Nat.zero_mul, Nat.add_zero, ih]

theorem run_part {p : Part} (letter : p.letter.isDigit = false) :
    run ⟨total, 0⟩ p.text.toList = ⟨total + p.seconds, 0⟩ := by
  have parts : p.text.toList =
      List.replicate (p.width - (toString p.amount).length) ' ' ++ (toString p.amount).toList ++ [p.letter] := by
    rw [Part.text, alignRight, spaces, String.toList_append, String.toList_append, String.toList_ofList,
      String.toList_ofList]
  have value : Nat.ofDigitChars 10 (toString p.amount).toList 0 = p.amount := by
    rw [Nat.toString_eq_repr, Nat.toList_repr]
    exact Nat.ofDigitChars_toDigits (by decide) (by decide)
  rw [parts, run_append, run_append, run_spaces, run_digits total (fun _ => isDigit_of_mem_toString), value]
  exact next_letter total letter p.amount

theorem run_parts {ps : List Part} (letters : ∀ p ∈ ps, p.letter.isDigit = false) :
    run ⟨total, 0⟩ (" ".intercalate (ps.map Part.text)).toList = ⟨total + (ps.map Part.seconds).sum, 0⟩ := by
  induction ps generalizing total with
  | nil => rfl
  | cons p ps ih =>
    have first := run_part total (letters p List.mem_cons_self)
    have rest := ih (total + p.seconds) fun q later => letters q (List.mem_cons_of_mem p later)
    cases ps with
    | nil => simpa using first
    | cons q qs =>
      have space : run ⟨total + p.seconds, 0⟩ " ".toList = ⟨total + p.seconds, 0⟩ := run_spaces _ 1
      have others : (q :: qs).map Part.text ≠ [] := List.cons_ne_nil _ _
      rw [List.map_cons, String.intercalate_cons_of_ne_nil others, String.toList_append, String.toList_append,
        run_append, run_append, first, space, rest]
      simp only [List.map_cons, List.sum_cons, Nat.add_assoc]

end Reading

/-! ## Texts -/

section Texts
variable {days hours minutes seconds : Nat}

theorem sum_dropWhile_seconds (ps : List Part) :
    ((ps.dropWhile (·.amount = 0)).map Part.seconds).sum = (ps.map Part.seconds).sum := by
  induction ps with
  | nil => rfl
  | cons p ps ih =>
    by_cases none : p.amount = 0
    · have nothing : p.seconds = 0 := by rw [Part.seconds, none, Nat.zero_mul]
      rw [List.dropWhile_cons_of_pos (by simpa using none), ih, List.map_cons, List.sum_cons, nothing, Nat.zero_add]
    · rw [List.dropWhile_cons_of_neg (by simpa using none)]

theorem sum_parts (days hours minutes seconds : Nat) :
    ((parts days hours minutes seconds).map Part.seconds).sum =
      days * 86400 + hours * 3600 + minutes * 60 + seconds := by
  rw [parts, List.map_append, List.sum_append, sum_dropWhile_seconds]
  simp [Part.seconds, secondsPer, Nat.add_assoc]

theorem letters_parts : ∀ p ∈ parts days hours minutes seconds, p.letter.isDigit = false := by
  intro p member
  rcases List.mem_append.mp member with front | last
  · have shown := (List.dropWhile_sublist _).subset front
    simp only [List.mem_cons, List.not_mem_nil, or_false] at shown
    rcases shown with rfl | rfl | rfl <;> rfl
  · rw [List.mem_singleton.mp last]
    rfl

theorem secondsIn_parts (days hours minutes seconds : Nat) :
    secondsIn (" ".intercalate ((parts days hours minutes seconds).map Part.text)) =
      days * 86400 + hours * 3600 + minutes * 60 + seconds := by
  rw [secondsIn, Reading.run_parts 0 letters_parts, Nat.zero_add, sum_parts]

theorem component_natCast {amount : Nat} (small : amount < 2 ^ 53) (width : Nat) (letter : Char) (rest : String) :
    component width (finite amount) (String.ofList [letter] ++ rest) = Part.text ⟨amount, width, letter⟩ ++ rest := by
  rw [component, text_natCast small, ← String.append_assoc, Part.text]

theorem text_eq_parts (small : days < 2 ^ 53) (hours_below : hours < 24) (minutes_below : minutes < 60)
    (seconds_below : seconds < 60) :
    Duration.text ⟨finite days, finite hours, finite minutes, finite seconds⟩ =
      " ".intercalate ((parts days hours minutes seconds).map Part.text) := by
  have above : ∀ n : Nat, Binary64.lt 0 (finite n) = decide (0 < n) := by
    intro n
    have whole : (finite n).IsWhole n := .inl rfl
    rw [whole.zero_lt]
    simp
  have day : component 3 (finite days) "d " = _ := component_natCast small 3 'd' " "
  have hour : component 2 (finite hours) "h " = _ := component_natCast (by omega) 2 'h' " "
  have minute : component 2 (finite minutes) "m " = _ := component_natCast (by omega) 2 'm' " "
  have second : component 2 (finite seconds) "s" = _ := component_natCast (by omega) 2 's' ""
  rw [Duration.text]
  simp only [above, day, hour, minute, second, String.append_empty, decide_eq_true_eq]
  -- The text and the list of parts drop the same components, one by one from the front.
  rcases Nat.eq_zero_or_pos days with rfl | some
  · rcases Nat.eq_zero_or_pos hours with rfl | some
    · rcases Nat.eq_zero_or_pos minutes with rfl | some
      · simp [parts]
      · simp [parts, some, some.ne', String.append_assoc]
    · simp [parts, some, some.ne', String.append_assoc]
  · simp [parts, some, some.ne', String.append_assoc]

variable {x : Binary64} {t : Nat}

theorem exists_parts (whole : x.IsWhole t) (small : t < 2 ^ 53) :
    ∃ days hours minutes seconds : Nat,
      ofSeconds x = ⟨finite days, finite hours, finite minutes, finite seconds⟩ ∧
      hours < 24 ∧ minutes < 60 ∧ seconds < 60 ∧ days * 86400 + hours * 3600 + minutes * 60 + seconds = t ∧
      durationText x = " ".intercalate ((parts days hours minutes seconds).map Part.text) := by
  have split := ofSeconds_of_isWhole whole (by exact_mod_cast small)
  rw [Int.toNat_natCast] at split
  refine ⟨_, _, _, _, split, by omega, by omega, by omega, by omega, ?_⟩
  rw [durationText, split]
  exact text_eq_parts (by omega) (by omega) (by omega) (by omega)

theorem secondsIn_durationText (whole : x.IsWhole t) (small : t < 2 ^ 53) : secondsIn (durationText x) = t := by
  obtain ⟨days, hours, minutes, seconds, -, -, -, -, total, text⟩ := exists_parts whole small
  rw [text, secondsIn_parts, total]

/-- The components of a duration add up to it, and so does what its text says: no two durations share a text. -/
theorem durationText_reads_back (whole : x.IsWhole t) (small : t < 2 ^ 53) :
    ∃ days hours minutes seconds : Nat,
      ofSeconds x = ⟨finite days, finite hours, finite minutes, finite seconds⟩ ∧
      hours < 24 ∧ minutes < 60 ∧ seconds < 60 ∧ days * 86400 + hours * 3600 + minutes * 60 + seconds = t ∧
      durationText x = " ".intercalate ((parts days hours minutes seconds).map Part.text) ∧
      secondsIn (durationText x) = t ∧
      ∀ (y : Binary64) (u : Nat), y.IsWhole u → u < 2 ^ 53 → durationText y = durationText x → u = t := by
  obtain ⟨days, hours, minutes, seconds, split, hour, minute, second, total, text⟩ := exists_parts whole small
  have read := secondsIn_durationText whole small
  refine ⟨days, hours, minutes, seconds, split, hour, minute, second, total, text, read, ?_⟩
  intro y u wholeY smallY same
  rw [← secondsIn_durationText wholeY smallY, same, read]

theorem durationText_reads_back_of_many_days :
    durationText 9007199254740991 = "104249991374d  7h 36m 31s" ∧
    secondsIn "104249991374d  7h 36m 31s" = 9007199254740991 ∧
    ∀ y u, y.IsWhole (u : Nat) → u < 2 ^ 53 → durationText y = "104249991374d  7h 36m 31s" → u = 9007199254740991 := by
  have text : durationText 9007199254740991 = "104249991374d  7h 36m 31s" := by decide +kernel
  obtain ⟨-, -, -, -, -, -, -, -, -, -, read, only⟩ :=
    durationText_reads_back (isWhole_ofNat (n := 9007199254740991) (by decide)) (by decide)
  exact ⟨text, (congrArg secondsIn text).symm.trans read,
    fun y u whole small same => only y u whole small (same.trans text.symm)⟩

end Texts
end MeteredDownload.Report.Duration
