/-!
# Labels beyond ASCII

A label of a host name with characters beyond ASCII is written with the ASCII characters first, and after a
hyphen one number for each of the others, which tells which character stands where.  Every number is
written with variable digits whose range adapts to the numbers before it.  `Punycode.encode` writes a label
and `Punycode.decode?` reads one.
-/
set_option autoImplicit false
namespace MeteredDownload.Url.Punycode

def base : Nat := 36
def firstBias : Nat := 72
def firstCode : Nat := 128

def digit (d : Nat) : Char := Char.ofNat (if d < 26 then 'a'.toNat + d else '0'.toNat + (d - 26))

def value? (c : Char) : Option Nat :=
  if c.isLower then some (c.toNat - 'a'.toNat)
  else if c.isDigit then some (c.toNat - '0'.toNat + 26)
  else none

def threshold (bias k : Nat) : Nat := if k ≤ bias then 1 else if bias + 26 ≤ k then 26 else k - bias

theorem threshold_pos (bias k : Nat) : 1 ≤ threshold bias k := by
  unfold threshold
  split
  · omega
  · split <;> omega

/-- How often the distance has to be divided until it is small, and what is left of it. -/
def shrink (delta k : Nat) : Nat × Nat :=
  if 455 < delta then shrink (delta / 35) (k + base) else (delta, k)
termination_by delta
decreasing_by exact Nat.div_lt_self (by omega) (by omega)

def adapt (delta count : Nat) (first : Bool) : Nat :=
  let delta := if first then delta / 700 else delta / 2
  let (delta, k) := shrink (delta + delta / count) 0
  k + 36 * delta / (delta + 38)

def digits (bias q k : Nat) : List Char :=
  if q < threshold bias k then [digit q]
  else
    let t := threshold bias k
    digit (t + (q - t) % (base - t)) :: digits bias ((q - t) / (base - t)) (k + base)
termination_by q
decreasing_by
  have positive := threshold_pos bias k
  exact Nat.lt_of_le_of_lt (Nat.div_le_self _ _) (by omega)

structure State where
  code : Nat
  delta : Nat
  bias : Nat
  handled : Nat
  out : List Char

/-- Writes the number for each place in the label where the character of code `n` stands. -/
def place (n basic : Nat) (s : State) (c : Char) : State :=
  if c.toNat < n then { s with delta := s.delta + 1 }
  else if c.toNat = n then
    { s with out := s.out ++ digits s.bias s.delta base,
             bias := adapt s.delta (s.handled + 1) (s.handled = basic),
             delta := 0, handled := s.handled + 1 }
  else s

def advance (label : List Char) (basic : Nat) (s : State) (n : Nat) : State :=
  let s := { s with delta := s.delta + (n - s.code) * (s.handled + 1) }
  let s := label.foldl (place n basic) s
  { s with delta := s.delta + 1, code := n + 1 }

def encode (label : List Char) : List Char :=
  let basic := label.filter (·.toNat < firstCode)
  let others := ((label.filter (firstCode ≤ ·.toNat)).map Char.toNat).mergeSort.eraseDups
  let start : State :=
    ⟨firstCode, 0, firstBias, basic.length, if basic.isEmpty then [] else basic ++ ['-']⟩
  (others.foldl (advance label basic.length) start).out

/-- The number at the front of the digits, the first of which has the given weight, and what follows it. -/
def number? (bias weight k : Nat) : List Char → Option (Nat × List Char)
  | [] => none
  | c :: rest =>
    match value? c with
    | none => none
    | some d =>
      if d < threshold bias k then some (d * weight, rest)
      else
        match number? bias (weight * (base - threshold bias k)) (k + base) rest with
        | none => none
        | some (n, rest) => some (d * weight + n, rest)

theorem length_lt_of_number? {bias weight k : Nat} {s rest : List Char} {n : Nat}
    (h : number? bias weight k s = some (n, rest)) : rest.length < s.length := by
  induction s generalizing weight k n rest with
  | nil => simp [number?] at h
  | cons c s ih =>
    unfold number? at h
    split at h
    · cases h
    · split at h
      · cases h
        simp
      · split at h
        · cases h
        · next next =>
          cases h
          exact Nat.lt_succ_of_lt (ih next)

/-- Puts characters at their places; each number is the distance from one code and place to the next. -/
def fill (code bias place : Nat) (out s : List Char) : Option (List Char) :=
  if s.isEmpty then some out
  else
    match h : number? bias 1 base s with
    | none => none
    | some (n, rest) =>
      let count := out.length + 1
      let next := code + (place + n) / count
      let here := (place + n) % count
      if next.isValidChar then
        fill next (adapt n count (place = 0)) (here + 1) (out.insertIdx here (Char.ofNat next)) rest
      else none
termination_by s.length
decreasing_by exact length_lt_of_number? h

def decode? (s : List Char) : Option (List Char) :=
  let numbers := (s.reverse.takeWhile (· ≠ '-')).reverse
  let basic := ((s.reverse.dropWhile (· ≠ '-')).drop 1).reverse
  fill firstCode firstBias 0 basic numbers

end MeteredDownload.Url.Punycode
