import MeteredDownload.Value

/-!
# Response bodies

A body delivers its bytes in pieces of any size, and any piece may fail instead.  `Body.read` serves them
in blocks of the size that the reader asks for; what does not fit is kept for the next read.  A stream waits
for one piece more than it serves.
`Body.script` is the list of all reads with blocks of one size.
-/
set_option autoImplicit false
namespace MeteredDownload

open Numeric

structure Piece where
  delay : Binary64
  outcome : Except Value ByteArray

/-- What the source of a body gives: bytes, a text, which counts as its bytes in UTF-8, or a failure. -/
inductive Chunk where
  | bytes (content : ByteArray)
  | text (content : String)
  | failure (reason : Value)

def Chunk.piece (delay : Binary64) : Chunk → Piece
  | bytes content => ⟨delay, .ok content⟩
  | text content => ⟨delay, .ok content.toUTF8⟩
  | failure reason => ⟨delay, .error reason⟩

/-- What a read gives: the times that it takes, and a block or a failure.  An empty block is the end. -/
structure ReadStep where
  delays : List Binary64
  outcome : Except Value ByteArray

namespace ReadStep

def isEnd (step : ReadStep) : Bool :=
  match step.outcome with
  | .ok block => block.isEmpty
  | .error _ => false

end ReadStep

inductive BodyKind where
  /-- It is over after a failure or a close. -/
  | generator
  /-- It cannot be closed, and it goes on after a failure. -/
  | iterator
  /-- It holds a connection that is freed when it is over, and waits for one piece ahead of its reader. -/
  | stream
  | absent
  deriving DecidableEq, Repr

def BodyKind.endsOnFailure : BodyKind → Bool
  | iterator => false
  | _ => true

structure Body where
  kind : BodyKind
  announced? : Option Binary64
  rest : List Piece
  pending : ByteArray
  taken : Nat
  started : Bool
  finished : Bool

structure Pulled where
  delays : List Binary64
  taken : Nat
  outcome : Except Value ByteArray
  rest : List Piece

/-- Takes pieces until one is not empty.  An empty outcome means that there was none. -/
def pull : List Piece → Pulled
  | [] => ⟨[], 0, .ok .empty, []⟩
  | piece :: rest =>
    match piece.outcome with
    | .error reason => ⟨[piece.delay], 1, .error reason, rest⟩
    | .ok bytes =>
      if bytes.isEmpty then
        let next := pull rest
        { next with delays := piece.delay :: next.delays, taken := next.taken + 1 }
      else ⟨[piece.delay], 1, .ok bytes, rest⟩

def weightOf : List Piece → Nat
  | [] => 0
  | piece :: rest =>
    (match piece.outcome with
      | .ok bytes => bytes.size + 1
      | .error _ => 1) + weightOf rest

theorem size_pos_of_isEmpty_eq_false {bytes : ByteArray} (h : bytes.isEmpty = false) :
    0 < bytes.size := by
  simp only [ByteArray.isEmpty, beq_eq_false_iff_ne, ne_eq] at h
  omega

theorem weightOf_pull_of_error {pieces : List Piece} {reason : Value}
    (h : (pull pieces).outcome = .error reason) : weightOf (pull pieces).rest < weightOf pieces := by
  induction pieces with
  | nil => cases h
  | cons piece rest ih =>
    unfold pull at h ⊢
    split at h
    · next hp => simp only [hp, weightOf]; omega
    · next bytes hp =>
      split at h
      · next hb =>
        have less := ih h
        simp only [hp, hb, weightOf, if_true]
        omega
      · cases h

theorem weightOf_pull_of_ok {pieces : List Piece} {bytes : ByteArray}
    (h : (pull pieces).outcome = .ok bytes) (hb : bytes.isEmpty = false) :
    weightOf (pull pieces).rest + bytes.size < weightOf pieces := by
  induction pieces with
  | nil =>
    cases h
    cases hb
  | cons piece rest ih =>
    unfold pull at h ⊢
    split at h
    · cases h
    · next first hp =>
      split at h
      · next hf =>
        have less := ih h
        simp only [hp, hf, weightOf, if_true]
        omega
      · next hf =>
        cases h
        simp only [hp, hf, weightOf, Bool.false_eq_true, if_false]
        omega

namespace Body

def ofPieces (kind : BodyKind) (announced? : Option Binary64) (pieces : List Piece) : Body :=
  ⟨kind, announced?, if kind = .absent then [] else pieces, .empty, 0, false, false⟩

def ofChunks (kind : BodyKind) (announced? : Option Binary64) (chunks : List (Binary64 × Chunk)) : Body :=
  ofPieces kind announced? (chunks.map fun (delay, chunk) => chunk.piece delay)

def serve (n : Nat) (delays : List Binary64) (b : Body) : ReadStep × Body :=
  (⟨delays, .ok (b.pending.extract 0 n)⟩, { b with pending := b.pending.extract n b.pending.size })

/-- The times that it takes to pull pieces.  In a stream the time of the first has passed with the pull before,
if there was one, and that of the piece behind them passes now. -/
def waits (b : Body) (next : Pulled) : List Binary64 :=
  if b.kind = .stream then
    (if b.started then next.delays.drop 1 else next.delays)
      ++ match next.outcome, next.rest with
        | .ok _, ahead :: _ => [ahead.delay]
        | _, _ => []
  else next.delays

/-- Reads a block of at most `n` bytes.  Pieces are taken only if no byte is at hand. -/
def read (n : Nat) (b : Body) : ReadStep × Body :=
  if n = 0 then (⟨[], .ok .empty⟩, b)
  else if !b.pending.isEmpty then b.serve n []
  else if b.finished then (⟨[], .ok .empty⟩, b)
  else
    let next := pull b.rest
    let delays := b.waits next
    let b := { b with rest := next.rest, taken := b.taken + next.taken, started := true }
    match next.outcome with
    | .error reason => (⟨delays, .error reason⟩, { b with finished := b.kind.endsOnFailure })
    | .ok bytes =>
      if bytes.isEmpty then (⟨delays, .ok .empty⟩, { b with finished := true })
      else serve n delays { b with pending := bytes }

/-- Stops reading.  An iterator does not notice. -/
def close (b : Body) : Body :=
  { b with pending := .empty, finished := b.finished || b.kind ≠ .iterator }

def failsNext (b : Body) : Bool :=
  match b.rest with
  | ⟨_, .error _⟩ :: _ => true
  | _ => false

/-- Has a body that was begun come to its end, in whatever way?  A stream knows of a failure one piece
ahead. -/
def isOver (b : Body) : Bool := b.started && (b.finished || (b.kind = .stream && b.failsNext))

def weight (b : Body) : Nat := b.pending.size + weightOf b.rest

theorem weight_serve_lt {n : Nat} (delays : List Binary64) {b : Body} (hn : n ≠ 0)
    (hb : b.pending.isEmpty = false) : (b.serve n delays).2.weight < b.weight := by
  have positive := size_pos_of_isEmpty_eq_false hb
  simp only [serve, weight, ByteArray.size_extract]
  omega

theorem weight_read_lt {n : Nat} {b : Body} (h : (b.read n).1.isEnd = false) :
    (b.read n).2.weight < b.weight := by
  unfold read at h ⊢
  split at h
  · cases h
  next hn =>
  split at h
  · next hb =>
    simp only [hn, hb, if_true, if_false]
    exact weight_serve_lt [] hn (by simpa using hb)
  next hb =>
  split at h
  · cases h
  next hf =>
  simp only at h
  split at h
  · next reason outcome =>
    have less := weightOf_pull_of_error outcome
    simp only [hn, hb, hf, outcome, weight, Bool.false_eq_true, if_false]
    omega
  next bytes outcome =>
  split at h
  · next he =>
    simp only [ReadStep.isEnd] at h
    cases h
  next he =>
  have hsome : bytes.isEmpty = false := by simpa using he
  have less := weightOf_pull_of_ok outcome hsome
  have served := weight_serve_lt (n := n) (b.waits (pull b.rest))
    (b := { b with rest := (pull b.rest).rest, taken := b.taken + (pull b.rest).taken,
                   started := true, pending := bytes }) hn hsome
  simp only [hn, hb, hf, outcome, hsome, Bool.false_eq_true, if_false]
  refine Nat.lt_trans served ?_
  simp only [weight]
  omega

def script (n : Nat) (b : Body) : List ReadStep :=
  match _read : b.read n with
  | (step, next) => if _last : step.isEnd then [step] else step :: next.script n
termination_by b.weight
decreasing_by
  have less := weight_read_lt (n := n) (b := b) (by simpa [_read] using _last)
  simpa [_read] using less

end Body
end MeteredDownload
