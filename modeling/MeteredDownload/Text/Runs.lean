import MeteredDownload.Text.Split

/-!
# Tables of characters

What is known of each character stands in a text of words, between blanks or line ends.  Every word tells
of the characters that follow those of the word before it: a mark, how many there are, where no number means
one, and further numbers, each behind a point.  All numbers are of base sixteen.  `Runs.ofText` reads such a
text and `Runs.find?` finds what it tells of a character.
-/
set_option autoImplicit false
namespace MeteredDownload.Text

structure Run where
  first : Nat
  count : Nat
  mark : Char
  parts : List Nat
  deriving DecidableEq, Repr

abbrev Runs := Array Run

namespace Run

def digitValue (c : Char) : Nat := if c.isDigit then c.toNat - '0'.toNat else c.toNat - 'A'.toNat + 10

def numberOf (s : List Char) : Nat := s.foldl (fun n c => 16 * n + digitValue c) 0

/-- The run that a word tells of, if its characters begin with the code `first`. -/
def ofWord? (first : Nat) : List Char → Option Run
  | [] => none
  | mark :: rest =>
    let (count, parts?) := cut '.' rest
    let parts := (parts?.map (splitOn '.')).getD []
    some ⟨first, if count.isEmpty then 1 else numberOf count, mark, parts.map numberOf⟩

end Run

namespace Runs

def ofWords (first : Nat) : List (List Char) → List Run
  | [] => []
  | w :: rest =>
    match Run.ofWord? first w with
    | none => ofWords first rest
    | some run => run :: ofWords (first + run.count) rest

def ofText (s : String) : Runs :=
  (ofWords 0 (splitOn ' ' (s.toList.map fun c => if c = '\n' then ' ' else c))).toArray

/-- The place of the last run from `low` on and before `high` that does not begin behind a code. -/
def search (runs : Runs) (code low high : Nat) : Nat :=
  if low + 1 < high then
    let middle := (low + high) / 2
    match runs[middle]? with
    | none => low
    | some run => if run.first ≤ code then search runs code middle high else search runs code low middle
  else low
termination_by high - low

def find? (runs : Runs) (code : Nat) : Option Run :=
  (runs[runs.search code 0 runs.size]?).filter fun run => code < run.first + run.count

end Runs
end MeteredDownload.Text
