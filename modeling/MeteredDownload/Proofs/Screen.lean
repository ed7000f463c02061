import Mathlib.Data.List.Induction
import Mathlib.Logic.Function.Basic
import MeteredDownload.Proofs.Printable

/-!
# What a screen shows of a status line

A screen shows the characters that it is given one after the other, each in the cell at the cursor; a line in
place is a row of it.  A line is redrawn by as many blanks as the line before had characters, and then by the
new line, each from the first column on (`Text.redraws`).  So nothing is left of an earlier line
(`Screen.print_redraws`), whichever of the two is the longer one.
-/
set_option autoImplicit false
namespace MeteredDownload

structure Screen where
  width : Nat
  cells : Nat → Nat → Char
  row : Nat
  column : Nat

namespace Screen
open Text

def newline (s : Screen) : Screen := { s with row := s.row + 1, column := 0 }

def fill (c : Char) (s : Screen) : Screen :=
  { s with cells := Function.update s.cells s.row (Function.update (s.cells s.row) s.column c),
           column := s.column + 1 }

/-- The screen after one more character.  Behind the last column the text goes on in the next row. -/
def type (s : Screen) (c : Char) : Screen :=
  if c = '\r' then { s with column := 0 }
  else if c = '\n' then s.newline
  else if s.column < s.width then s.fill c
  else s.newline.fill c

def print (s : Screen) (chunks : List String) : Screen :=
  chunks.foldl (fun s chunk => chunk.toList.foldl type s) s

/-- The row has the text from its first column on, and blanks everywhere else. -/
def Shows (s : Screen) (row : Nat) (line : String) : Prop := ∀ column, s.cells row column = line.toList.getD column ' '

def showing (text : List Char) (column : Nat) (s : Screen) : Screen :=
  { s with cells := Function.update s.cells s.row fun column => text.getD column ' ', column }

section Print
variable (s : Screen)

theorem print_append (chunks more : List String) : s.print (chunks ++ more) = (s.print chunks).print more :=
  List.foldl_append ..

theorem shows_showing (line : String) (column : Nat) : (s.showing line.toList column).Shows s.row line := by
  intro column
  simp [showing]

theorem showing_of_blank {s : Screen} (blank : s.Shows s.row "") (left : s.column = 0) :
    s.showing [] 0 = s := by
  have same : (fun column => ([] : List Char).getD column ' ') = s.cells s.row := by
    funext column
    rw [blank column]
    rfl
  simp only [showing, same, Function.update_eq_self, ← left]

theorem showing_spaces (n : Nat) : s.showing (List.replicate n ' ') 0 = s.showing [] 0 := by
  have same : (fun column => (List.replicate n ' ').getD column ' ') =
      fun column => ([] : List Char).getD column ' ' := by
    funext column
    by_cases within : column < n
    · simp [List.getElem?_replicate_of_lt within]
    · simp [within]
  simp only [showing, same]

theorem type_return (text : List Char) (column : Nat) :
    (s.showing text column).type '\r' = s.showing text 0 := rfl

theorem type_newline (text : List Char) (column : Nat) :
    (s.showing text column).type '\n' = (s.showing text column).newline := rfl

theorem type_of_isPrintable {s : Screen} {c : Char} (shown : isPrintable c = true) (room : s.column < s.width) :
    s.type c = s.fill c := by
  have stays : c ≠ '\r' := by
    rintro rfl
    exact absurd shown (by decide)
  have inside : c ≠ '\n' := by
    rintro rfl
    exact absurd shown (by decide)
  rw [type, if_neg stays, if_neg inside, if_pos room]

theorem fill_showing (before after : List Char) (c : Char) :
    (s.showing (before ++ after) before.length).fill c =
      s.showing (before ++ c :: after.drop 1) (before.length + 1) := by
  have cell : Function.update (fun column => (before ++ after).getD column ' ') before.length c =
      fun column => (before ++ c :: after.drop 1).getD column ' ' := by
    funext column
    rcases Nat.lt_trichotomy column before.length with left | rfl | right
    · rw [Function.update_of_ne (Nat.ne_of_lt left)]
      simp [List.getElem?_append_left left]
    · simp
    · obtain ⟨more, rfl⟩ := Nat.exists_eq_add_of_lt right
      rw [Function.update_of_ne (Nat.ne_of_gt right)]
      simp [List.getElem?_append_right, Nat.add_assoc]
  simp only [fill, showing, Function.update_self, Function.update_idem, cell]

theorem foldl_type {text : List Char} (printable : Printable text) (before after : List Char)
    (room : before.length + text.length ≤ s.width) :
    text.foldl type (s.showing (before ++ after) before.length) =
      s.showing (before ++ text ++ after.drop text.length) (before.length + text.length) := by
  induction text generalizing before after with
  | nil => simp
  | cons c rest ih =>
    rw [printable_cons] at printable
    simp only [List.length_cons] at room
    have next : before.length < (s.showing (before ++ after) before.length).width := by
      show before.length < s.width
      omega
    have later := ih printable.2 (before ++ [c]) (after.drop 1) (by simp; omega)
    rw [List.foldl_cons, type_of_isPrintable printable.1 next, fill_showing]
    simp only [List.append_assoc, List.singleton_append, List.length_append, List.length_singleton] at later
    rw [later]
    simp [Nat.add_assoc, Nat.add_comm 1]

theorem print_line {line : String} (printable : Printable line.toList) (fits : line.length ≤ s.width)
    (text : List Char) :
    (s.showing text 0).print [line] = s.showing (line.toList ++ text.drop line.length) line.length := by
  rw [← String.length_toList] at fits ⊢
  have typed := foldl_type s printable [] text (by simpa using fits)
  simpa [print] using typed

end Print

end Screen

namespace Text

def drawing (last? : Option String) (line : String) : List String :=
  (last?.map fun last => spaces last.length ++ "\r").toList ++ [line]

def redraws (last? : Option String) : List String → List String
  | [] => []
  | line :: rest => drawing last? line ++ "\r" :: redraws (some line) rest

theorem redraws_concat (last? : Option String) (lines : List String) (line : String) :
    redraws last? (lines ++ [line]) =
      redraws last? lines ++ drawing (lines.getLast?.or last?) line ++ ["\r"] := by
  induction lines generalizing last? with
  | nil => simp [redraws]
  | cons first rest ih =>
    have last : rest.getLast?.or (some first) = (first :: rest).getLast?.or last? := by
      rw [List.getLast?_cons]
      cases rest.getLast? <;> rfl
    rw [List.cons_append, redraws, ih, last, redraws]
    simp

structure Fits (width : Nat) (line : String) : Prop where
  printable : Printable line.toList
  length : line.length ≤ width

/-- The chunks of a display that has drawn these lines, and may have returned to the first column since. -/
inductive Drawn : List String → List String → Prop
  | rewound (lines : List String) : Drawn lines (redraws none lines)
  | ahead (lines : List String) (line : String) :
      Drawn (lines ++ [line]) (redraws none lines ++ drawing lines.getLast? line)

section Chunks
variable {lines chunks : List String} {chunk : String}

theorem mem_drawing {last? : Option String} {line : String} (member : chunk ∈ drawing last? line) :
    chunk = line ∨ ∃ n, chunk = spaces n ++ "\r" := by
  cases last? with
  | none => exact .inl (by simpa [drawing] using member)
  | some last =>
    rcases (by simpa [drawing] using member : chunk = spaces last.length ++ "\r" ∨ chunk = line) with blank | same
    · exact .inr ⟨_, blank⟩
    · exact .inl same

theorem mem_redraws {last? : Option String} (member : chunk ∈ redraws last? lines) :
    chunk ∈ lines ∨ ∃ n, chunk = spaces n ++ "\r" := by
  induction lines generalizing last? with
  | nil => cases member
  | cons line rest ih =>
    rw [redraws, List.mem_append, List.mem_cons] at member
    rcases member with drawn | rfl | later
    · rcases mem_drawing drawn with rfl | blank
      · exact .inl List.mem_cons_self
      · exact .inr blank
    · exact .inr ⟨0, rfl⟩
    · exact (ih later).imp_left (List.mem_cons_of_mem line)

theorem Drawn.mem (drawn : Drawn lines chunks) (member : chunk ∈ chunks) :
    chunk ∈ lines ∨ ∃ n, chunk = spaces n ++ "\r" := by
  cases drawn with
  | rewound => exact mem_redraws member
  | ahead lines line =>
    rcases List.mem_append.mp member with earlier | last
    · exact (mem_redraws earlier).imp_left (List.mem_append_left [line])
    · exact (mem_drawing last).imp_left fun same => by simp [same]

theorem not_printable_blank (n : Nat) : ¬ Printable (spaces n ++ "\r").toList := by
  intro printable
  exact absurd (printable '\r' (by simp)) (by decide)

end Chunks

end Text

namespace Screen
open Text

def Follows (s : Screen) (chunks : List String) : Prop :=
  ∀ (before : List String) (line : String), before ++ [line] <+: chunks → Printable line.toList →
    (s.print (before ++ [line])).Shows s.row line

section Redraws
variable {s : Screen} {lines chunks : List String} {line chunk : String}

theorem follows_nil (s : Screen) : s.Follows [] := by
  intro before line earlier
  simp at earlier

theorem Follows.concat (follows : s.Follows chunks)
    (last : Printable chunk.toList → (s.print (chunks ++ [chunk])).Shows s.row chunk) :
    s.Follows (chunks ++ [chunk]) := by
  intro before line earlier printable
  rcases List.prefix_concat_iff.mp earlier with same | inside
  · obtain ⟨rfl, rfl⟩ := List.append_inj' same rfl |>.imp_right List.singleton_inj.mp
    exact last printable
  · exact follows before line inside printable

theorem print_blank (fits : line.length ≤ s.width) :
    (s.showing line.toList 0).print [spaces line.length ++ "\r"] = s.showing [] 0 := by
  have length : (spaces line.length).length = line.length := by simp [spaces]
  have typed := print_line s (printable_spaces line.length) (by rwa [length]) line.toList
  rw [length, List.drop_of_length_le (String.length_toList ▸ Nat.le_refl _), List.append_nil] at typed
  have split : (s.showing line.toList 0).print [spaces line.length ++ "\r"] =
      ((s.showing line.toList 0).print [spaces line.length]).type '\r' := by
    simp [print]
  rw [split, typed, type_return, spaces, String.toList_ofList, showing_spaces]

theorem print_drawing {last? : Option String} (before : ∀ last ∈ last?, Fits s.width last)
    (fits : Fits s.width line) :
    (s.showing (last?.getD "").toList 0).print (drawing last? line) = s.showing line.toList line.length := by
  have drawn : (s.showing [] 0).print [line] = s.showing line.toList line.length := by
    rw [print_line s fits.printable fits.length]
    simp
  cases last? with
  | none => exact drawn
  | some last =>
    have blanked := print_blank (before last rfl).length
    show (s.showing last.toList 0).print ([spaces last.length ++ "\r"] ++ [line]) = _
    rw [print_append, blanked, drawn]

theorem print_redraws (fits : ∀ line ∈ lines, Fits s.width line) :
    (s.showing [] 0).print (redraws none lines) = s.showing (lines.getLast?.getD "").toList 0 := by
  induction lines using List.reverseRecOn with
  | nil => rfl
  | append_singleton lines line ih =>
    have before := ih fun line member => fits line (List.mem_append_left _ member)
    have drawn : (s.showing (lines.getLast?.getD "").toList 0).print (drawing lines.getLast? line) =
        s.showing line.toList line.length := print_drawing
      (fun last member => fits last (List.mem_append_left _ (List.mem_of_getLast? member)))
      (fits line (List.mem_append_right _ (List.mem_singleton_self line)))
    rw [redraws_concat, Option.or_none, print_append, print_append, before, drawn]
    simp [print, type_return]

theorem print_ahead (fits : ∀ line ∈ lines, Fits s.width line) (last : Fits s.width line) :
    (s.showing [] 0).print (redraws none lines ++ drawing lines.getLast? line) =
      s.showing line.toList line.length := by
  rw [print_append, print_redraws fits]
  exact print_drawing (fun last member => fits last (List.mem_of_getLast? member)) last

theorem Follows.drawing (follows : s.Follows chunks) {last? : Option String}
    (drawn : (s.print (chunks ++ Text.drawing last? line)).Shows s.row line) :
    s.Follows (chunks ++ Text.drawing last? line) := by
  cases last? with
  | none => exact follows.concat fun _ => drawn
  | some last =>
    have blanked : s.Follows (chunks ++ [spaces last.length ++ "\r"]) :=
      follows.concat fun printable => absurd printable (not_printable_blank _)
    have both : chunks ++ Text.drawing (some last) line = chunks ++ [spaces last.length ++ "\r"] ++ [line] := by
      simp [Text.drawing]
    rw [both] at drawn ⊢
    exact blanked.concat fun _ => drawn

/-- Whatever lines a display draws, each is shown as it is, although the row was never cleared. -/
theorem follows_of_drawn (blank : s.showing [] 0 = s) (drawn : Drawn lines chunks)
    (fits : ∀ line ∈ lines, Fits s.width line) : s.Follows chunks := by
  have ahead : ∀ (lines : List String) (line : String), (∀ line ∈ lines, Fits s.width line) → Fits s.width line →
      s.Follows (redraws none lines) → s.Follows (redraws none lines ++ drawing lines.getLast? line) := by
    intro lines line fits last follows
    have printed := print_ahead (s := s) fits last
    rw [blank] at printed
    refine follows.drawing ?_
    rw [printed]
    exact shows_showing s line line.length
  have rewound : ∀ lines : List String, (∀ line ∈ lines, Fits s.width line) → s.Follows (redraws none lines) := by
    intro lines fits
    induction lines using List.reverseRecOn with
    | nil => exact follows_nil s
    | append_singleton lines line ih =>
      have earlier : ∀ line ∈ lines, Fits s.width line := fun line member =>
        fits line (List.mem_append_left _ member)
      have last := fits line (List.mem_append_right _ (List.mem_singleton_self line))
      rw [redraws_concat, Option.or_none]
      exact (ahead lines line earlier last (ih earlier)).concat fun printable => absurd printable (by decide)
  cases drawn with
  | rewound => exact rewound lines fits
  | ahead lines line =>
    have earlier : ∀ line ∈ lines, Fits s.width line := fun line member =>
      fits line (List.mem_append_left _ member)
    exact ahead lines line earlier (fits line (List.mem_append_right _ (List.mem_singleton_self line)))
      (rewound lines earlier)

theorem print_of_drawn (blank : s.showing [] 0 = s) (drawn : Drawn lines chunks)
    (fits : ∀ line ∈ lines, Fits s.width line) :
    ∃ column, s.print chunks = s.showing (lines.getLast?.getD "").toList column := by
  cases drawn with
  | rewound =>
    have printed := print_redraws (s := s) fits
    rw [blank] at printed
    exact ⟨0, printed⟩
  | ahead lines line =>
    have printed := print_ahead (s := s) (fun line member => fits line (List.mem_append_left _ member))
      (fits line (List.mem_append_right _ (List.mem_singleton_self line)))
    rw [blank] at printed
    exact ⟨line.length, by simpa using printed⟩

end Redraws

end Screen

/-! ## The end of the line -/

namespace Text

inductive Ended {ε α : Type} : Except ε α → List String → List String → Prop
  | resolved (result : α) (lines : List String) (line : String) :
      Ended (.ok result) (lines ++ [line]) (redraws none lines ++ drawing lines.getLast? line ++ ["\n"])
  | rejected (reason : ε) {lines chunks : List String} (drawn : Drawn lines chunks) :
      Ended (.error reason) lines chunks

section Ended
variable {lines chunks : List String} {chunk : String}

theorem newline_not_mem_of_drawn (drawn : Drawn lines chunks) (printable : ∀ line ∈ lines, Printable line.toList)
    (member : chunk ∈ chunks) : '\n' ∉ chunk.toList := by
  intro newline
  rcases drawn.mem member with line | ⟨n, rfl⟩
  · exact absurd (printable chunk line '\n' newline) (by decide)
  · rw [String.toList_append, List.mem_append] at newline
    rcases newline with blank | back
    · exact absurd (printable_spaces n '\n' blank) (by decide)
    · exact absurd back (by decide)

theorem filter_drawing {last? : Option String} {line : String} (printable : Printable line.toList) :
    (drawing last? line).filter (fun chunk => Printable chunk.toList) = [line] := by
  cases last? with
  | none => simp [drawing, printable]
  | some last =>
    have blank := not_printable_blank last.length
    simp [drawing, printable, -String.toList_append, blank]

theorem filter_redraws {last? : Option String} (printable : ∀ line ∈ lines, Printable line.toList) :
    (redraws last? lines).filter (fun chunk => Printable chunk.toList) = lines := by
  have back : ¬ Printable "\r".toList := by decide
  induction lines generalizing last? with
  | nil => rfl
  | cons line rest ih =>
    have later : (redraws (some line) rest).filter (fun chunk => Printable chunk.toList) = rest :=
      ih fun line member => printable line (List.mem_cons_of_mem _ member)
    rw [redraws, List.filter_append, filter_drawing (printable line List.mem_cons_self),
      List.filter_cons_of_neg (by simpa using back), later]
    rfl

theorem filter_of_drawn (drawn : Drawn lines chunks) (printable : ∀ line ∈ lines, Printable line.toList) :
    chunks.filter (fun chunk => Printable chunk.toList) = lines := by
  cases drawn with
  | rewound => exact filter_redraws printable
  | ahead lines line =>
    rw [List.filter_append, filter_redraws fun line member => printable line (List.mem_append_left _ member),
      filter_drawing (printable line (List.mem_append_right _ (List.mem_singleton_self line)))]

end Ended

end Text

namespace Screen
open Text

/-- What a screen shows of a transfer, as its chunks are printed and when it has ended. -/
structure ShowsRun {ε α : Type} (s : Screen) (lines : List String) (outcome : Except ε α) (chunks : List String) :
    Prop where
  draws : chunks.filter (fun chunk => Printable chunk.toList) = lines
  follows : s.Follows chunks
  /-- The only newline stands at the end, and the last line stays above the cursor. -/
  resolved : ∀ result, outcome = .ok result → ∃ before line, chunks = before ++ [line, "\n"] ∧
    lines.getLast? = some line ∧ (∀ chunk ∈ before ++ [line], '\n' ∉ chunk.toList) ∧
    (s.print chunks).Shows s.row line ∧ (s.print chunks).row = s.row + 1 ∧ (s.print chunks).column = 0
  rejected : ∀ reason, outcome = .error reason → (∀ chunk ∈ chunks, '\n' ∉ chunk.toList) ∧
    (s.print chunks).Shows s.row (lines.getLast?.getD "") ∧ (s.print chunks).row = s.row

theorem showsRun_of_ended {ε α : Type} {s : Screen} {lines chunks : List String} {outcome : Except ε α}
    (blank : s.showing [] 0 = s) (ended : Ended outcome lines chunks) (fits : ∀ line ∈ lines, Fits s.width line) :
    s.ShowsRun lines outcome chunks := by
  have printable : ∀ line ∈ lines, Printable line.toList := fun line member => (fits line member).printable
  cases ended with
  | resolved result lines line =>
    have drawn : Drawn (lines ++ [line]) (redraws none lines ++ drawing lines.getLast? line) := .ahead lines line
    have shown := print_ahead (s := s) (fun line member => fits line (List.mem_append_left _ member))
      (fits line (List.mem_append_right _ (List.mem_singleton_self line)))
    -- The newline is typed behind the last line, so it moves below that and leaves it as it is.
    have below : s.print (redraws none lines ++ drawing lines.getLast? line ++ ["\n"]) =
        (s.showing line.toList line.length).newline := by
      rw [blank] at shown
      rw [print_append, shown]
      simp [print, type_newline]
    have newline : ¬ Printable "\n".toList := by decide
    refine ⟨?_, ?_, ?_, nofun⟩
    · rw [List.filter_append, filter_of_drawn drawn printable, List.filter_cons_of_neg (by simpa using newline)]
      simp
    · exact (follows_of_drawn blank drawn fits).concat fun printable => absurd printable newline
    · intro _ _
      refine ⟨redraws none lines ++ (lines.getLast?.map fun last => spaces last.length ++ "\r").toList, line, ?_, ?_,
        ?_, ?_, ?_, ?_⟩
      · simp [drawing]
      · simp
      · intro chunk member
        rw [List.append_assoc] at member
        exact newline_not_mem_of_drawn drawn printable member
      · rw [below]
        exact shows_showing s line line.length
      · rw [below]
        rfl
      · rw [below]
        rfl
  | rejected reason drawn =>
    obtain ⟨column, shown⟩ := print_of_drawn blank drawn fits
    refine ⟨filter_of_drawn drawn printable, follows_of_drawn blank drawn fits, nofun, ?_⟩
    intro _ _
    refine ⟨fun chunk member => newline_not_mem_of_drawn drawn printable member, ?_, ?_⟩
    · rw [shown]
      exact shows_showing s _ column
    · rw [shown]
      rfl

end Screen
end MeteredDownload
