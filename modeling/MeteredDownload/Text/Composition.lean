import MeteredDownload.Text.Composition.Table

/-!
# Composed texts

A letter with marks may be written as one character or as several.  `compose` takes a text to the form in
which letters and their marks are one character wherever there is one: it takes all apart, puts marks that
do not touch each other in the order of their classes, and puts together what can be.  A character that is only
another way to write others is left as it is; whoever folds a text has replaced it before.
-/
set_option autoImplicit false
namespace MeteredDownload.Text.Composition

def classOf (c : Char) : Nat := ((classes.find? c.toNat).bind (·.parts.head?)).getD 0

def vowelKiller : Nat := 9

/-! ## Syllables that are made of two or three letters by counting -/

def firstSyllable : Nat := 0xAC00
def firstLead : Nat := 0x1100
def firstVowel : Nat := 0x1161
def noTail : Nat := 0x11A7
def leads : Nat := 19
def vowels : Nat := 21
def tails : Nat := 28

def isSyllable (c : Char) : Bool :=
  firstSyllable ≤ c.toNat && c.toNat < firstSyllable + leads * vowels * tails

def lettersOf (c : Char) : List Char :=
  let n := c.toNat - firstSyllable
  let tail := n % tails
  [Char.ofNat (firstLead + n / (vowels * tails)), Char.ofNat (firstVowel + n / tails % vowels)]
    ++ if tail = 0 then [] else [Char.ofNat (noTail + tail)]

/-- The syllable of two letters, or of a syllable without a tail and a letter. -/
def syllable? (a b : Char) : Option Char :=
  let m := a.toNat - firstLead
  let n := b.toNat - firstVowel
  if firstLead ≤ a.toNat ∧ m < leads ∧ firstVowel ≤ b.toNat ∧ n < vowels then
    some (Char.ofNat (firstSyllable + (m * vowels + n) * tails))
  else if isSyllable a ∧ (a.toNat - firstSyllable) % tails = 0 ∧ noTail < b.toNat
      ∧ b.toNat < noTail + tails then
    some (Char.ofNat (a.toNat + (b.toNat - noTail)))
  else none

/-! ## Taking apart, ordering and putting together -/

def halves? (c : Char) : Option (Char × Char) :=
  match (pairs.find? c.toNat).map (·.parts) with
  | some [a, b] => some (Char.ofNat a, Char.ofNat b)
  | _ => none

def partsIn : Nat → Char → List Char
  | 0, c => [c]
  | steps + 1, c =>
    match halves? c with
    | none => [c]
    | some (a, b) => partsIn steps a ++ [b]

def partsOf (c : Char) : List Char := if isSyllable c then lettersOf c else partsIn 3 c

/-- Puts a character in front of others; a mark goes behind the marks of lower classes. -/
def insertMark (c : Char) : List Char → List Char
  | [] => [c]
  | d :: rest =>
    if classOf d ≠ 0 ∧ classOf d < classOf c then d :: insertMark c rest else c :: d :: rest

def ordered (s : List Char) : List Char := s.foldr insertMark []

def joined? (a b : Char) : Option Char :=
  (syllable? a b).or
    ((Array.find? (fun run => run.parts = [a.toNat, b.toNat]) pairs).map fun run => Char.ofNat run.first)

/-- Puts together what can be.  `last` is the letter that marks are joined to, and `between` are the marks
behind it that were not; a mark is not joined across one of its own class or a higher one. -/
def joinFrom (last : Char) (between : List Char) : List Char → List Char
  | [] => last :: between
  | c :: rest =>
    let reaches := match between.getLast? with
      | none => true
      | some mark => classOf mark < classOf c
    match if reaches then joined? last c else none with
    | some whole => joinFrom whole between rest
    | none =>
      if classOf c = 0 then last :: between ++ joinFrom c [] rest
      else joinFrom last (between ++ [c]) rest

def joinAll : List Char → List Char
  | [] => []
  | c :: rest => if classOf c = 0 then joinFrom c [] rest else c :: joinAll rest

def compose (s : List Char) : List Char := joinAll (ordered (s.flatMap partsOf))

end MeteredDownload.Text.Composition
