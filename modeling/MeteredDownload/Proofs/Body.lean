import Mathlib.Data.List.TakeWhile
import MeteredDownload.Body
import MeteredDownload.Proofs.Delivery

/-!
# What the reads of a body give

`Body.left` are the bytes that a body still has before its next failure, and `Body.fault?` is that failure.  A
read takes its bytes from the front of the first.  After a failure a body that ends with it has neither, so all
later reads find the end: the reads up to there give no more than came before the failure.
-/
set_option autoImplicit false
namespace MeteredDownload

open Numeric

theorem eq_empty_of_isEmpty {bytes : ByteArray} (nothing : bytes.isEmpty = true) : bytes = .empty :=
  ByteArray.size_eq_zero_iff.mp (by simpa [ByteArray.isEmpty] using nothing)

def Piece.whole (piece : Piece) : ReadStep := ⟨[piece.delay], piece.outcome⟩

def Piece.arrives (piece : Piece) : Bool := piece.whole.failure?.isNone

def bytesOf (pieces : List Piece) : ByteArray := ReadStep.join (pieces.map Piece.whole)

def beforeFailure (pieces : List Piece) : List Piece := pieces.takeWhile Piece.arrives

def firstFailure? (pieces : List Piece) : Option Value :=
  pieces.findSome? fun piece => piece.whole.failure?

section Pieces
variable {piece : Piece} {rest pieces : List Piece} {bytes : ByteArray} {reason : Value}

theorem bytesOf_cons (came : piece.outcome = .ok bytes) : bytesOf (piece :: rest) = bytes ++ bytesOf rest := by
  simp [bytesOf, ReadStep.join, ReadStep.bytes, Piece.whole, came]

theorem bytesOf_beforeFailure_cons (came : piece.outcome = .ok bytes) :
    bytesOf (beforeFailure (piece :: rest)) = bytes ++ bytesOf (beforeFailure rest) := by
  have arrives : piece.arrives = true := by simp [Piece.arrives, Piece.whole, ReadStep.failure?, came]
  rw [beforeFailure, List.takeWhile_cons_of_pos arrives, bytesOf_cons came]
  rfl

theorem bytesOf_beforeFailure_of_error (failed : piece.outcome = .error reason) :
    bytesOf (beforeFailure (piece :: rest)) = .empty := by
  simp [beforeFailure, bytesOf, ReadStep.join, Piece.arrives, Piece.whole, ReadStep.failure?, failed]

theorem firstFailure?_cons (came : piece.outcome = .ok bytes) :
    firstFailure? (piece :: rest) = firstFailure? rest := by
  simp [firstFailure?, Piece.whole, ReadStep.failure?, came]

theorem firstFailure?_of_error (failed : piece.outcome = .error reason) :
    firstFailure? (piece :: rest) = some reason := by
  simp [firstFailure?, Piece.whole, ReadStep.failure?, failed]

theorem beforeFailure_of_none (whole : firstFailure? pieces = none) : beforeFailure pieces = pieces := by
  have arrived := List.findSome?_eq_none_iff.mp whole
  apply List.takeWhile_eq_self_iff.mpr
  intro piece member
  rw [Piece.arrives, arrived piece member]
  rfl

theorem pull_failed (failed : (pull pieces).outcome = .error reason) :
    bytesOf (beforeFailure pieces) = .empty ∧ firstFailure? pieces = some reason := by
  induction pieces with
  | nil => cases failed
  | cons piece rest ih =>
    cases outcome : piece.outcome with
    | error first =>
      simp only [pull, outcome, Except.error.injEq] at failed
      subst failed
      exact ⟨bytesOf_beforeFailure_of_error outcome, firstFailure?_of_error outcome⟩
    | ok first =>
      by_cases nothing : first.isEmpty = true
      · simp only [pull, outcome, nothing, if_true] at failed
        obtain ⟨passed, found⟩ := ih failed
        rw [bytesOf_beforeFailure_cons outcome, firstFailure?_cons outcome, passed,
          eq_empty_of_isEmpty nothing]
        exact ⟨rfl, found⟩
      · simp [pull, outcome, nothing] at failed

theorem pull_came (came : (pull pieces).outcome = .ok bytes) :
    bytesOf (beforeFailure pieces) = bytes ++ bytesOf (beforeFailure (pull pieces).rest) ∧
    firstFailure? pieces = firstFailure? (pull pieces).rest ∧
    (bytes.isEmpty = true → (pull pieces).rest = []) := by
  induction pieces with
  | nil =>
    cases came
    exact ⟨rfl, rfl, fun _ => rfl⟩
  | cons piece rest ih =>
    cases outcome : piece.outcome with
    | error first => simp [pull, outcome] at came
    | ok first =>
      rw [bytesOf_beforeFailure_cons outcome, firstFailure?_cons outcome]
      by_cases nothing : first.isEmpty = true
      · simp only [pull, outcome, nothing, if_true] at came ⊢
        obtain ⟨passed, found, last⟩ := ih came
        rw [eq_empty_of_isEmpty nothing, ByteArray.empty_append]
        exact ⟨passed, found, last⟩
      · simp only [pull, outcome, nothing, Bool.false_eq_true, if_false, Except.ok.injEq] at came ⊢
        subst came
        refine ⟨rfl, trivial, fun empty => absurd empty nothing⟩

end Pieces

namespace Body

def left (b : Body) : ByteArray :=
  b.pending ++ if b.finished then .empty else bytesOf (beforeFailure b.rest)

def fault? (b : Body) : Option Value := if b.finished then none else firstFailure? b.rest

/-- What a read takes from a body: bytes from the front of what is left, none only at the end; or the next
failure, once no bytes are left before it. -/
def Takes (before : Body) (step : ReadStep) (after : Body) : Prop :=
  match step.outcome with
  | .ok bytes => before.left = bytes ++ after.left ∧ before.fault? = after.fault? ∧
      (bytes.isEmpty = true → before.left = .empty ∧ before.fault? = none)
  | .error reason => before.left = .empty ∧ before.fault? = some reason ∧
      (before.kind.endsOnFailure = true → after.left = .empty ∧ after.fault? = none)

section Reads
variable {n : Nat} {b : Body} {bytes : ByteArray} {reason : Value}

/-! ## A read, by where the body stands -/

theorem read_of_pending (positive : n ≠ 0) (filled : b.pending.isEmpty = false) : b.read n = b.serve n [] := by
  simp [read, positive, filled]

theorem read_of_finished (positive : n ≠ 0) (drained : b.pending.isEmpty = true) (ended : b.finished = true) :
    b.read n = (⟨[], .ok .empty⟩, b) := by
  simp [read, positive, drained, ended]

def pulled (b : Body) : Body :=
  { b with rest := (pull b.rest).rest, taken := b.taken + (pull b.rest).taken, started := true }

section Pulling
variable (positive : n ≠ 0) (drained : b.pending.isEmpty = true) (more : b.finished = false)
include positive drained more

theorem read_of_failure (failed : (pull b.rest).outcome = .error reason) :
    b.read n =
      (⟨b.waits (pull b.rest), .error reason⟩, { b.pulled with finished := b.kind.endsOnFailure }) := by
  simp [read, positive, drained, more, failed, pulled]

theorem read_of_end (came : (pull b.rest).outcome = .ok bytes) (nothing : bytes.isEmpty = true) :
    b.read n = (⟨b.waits (pull b.rest), .ok .empty⟩, { b.pulled with finished := true }) := by
  simp [read, positive, drained, more, came, nothing, pulled]

theorem read_of_piece (came : (pull b.rest).outcome = .ok bytes) (filled : bytes.isEmpty = false) :
    b.read n = serve n (b.waits (pull b.rest)) { b.pulled with pending := bytes } := by
  simp [read, positive, drained, more, came, filled, pulled]

end Pulling

/-! ## What is left after a read -/

theorem kind_read (n : Nat) (b : Body) : (b.read n).2.kind = b.kind := by
  unfold read
  split
  · rfl
  split
  · rfl
  split
  · rfl
  dsimp only
  split
  · rfl
  split <;> rfl

theorem takes_serve (positive : n ≠ 0) (delays : List Binary64) (filled : b.pending.isEmpty = false) :
    b.Takes (b.serve n delays).1 (b.serve n delays).2 := by
  have cut : b.pending.extract 0 n ++ b.pending.extract n b.pending.size = b.pending := by
    rw [ByteArray.extract_append_extract, Nat.zero_min, ByteArray.extract_zero_max_size]
  refine ⟨?_, rfl, ?_⟩
  · rw [left, left, serve, ← ByteArray.append_assoc, cut]
  · intro nothing
    have size := size_pos_of_isEmpty_eq_false filled
    have empty := congrArg ByteArray.size (eq_empty_of_isEmpty nothing)
    simp only [ByteArray.size_extract, ByteArray.size_empty] at empty
    omega

theorem takes_read (positive : n ≠ 0) (b : Body) : b.Takes (b.read n).1 (b.read n).2 := by
  by_cases drained : b.pending.isEmpty = true
  · have empty := eq_empty_of_isEmpty drained
    by_cases ended : b.finished = true
    · rw [read_of_finished positive drained ended]
      have nothing : b.left = .empty := by simp [left, empty, ended]
      exact ⟨by rw [nothing, ByteArray.empty_append], rfl, fun _ => ⟨nothing, by simp [fault?, ended]⟩⟩
    · have more : b.finished = false := by simpa using ended
      have leftNow : b.left = bytesOf (beforeFailure b.rest) := by simp [left, empty, more]
      have faultNow : b.fault? = firstFailure? b.rest := by simp [fault?, more]
      -- The pieces pulled end in a failure, at the end of the body, or in bytes of which the read serves some.
      cases outcome : (pull b.rest).outcome with
      | error reason =>
        obtain ⟨passed, found⟩ := pull_failed outcome
        rw [read_of_failure positive drained more outcome]
        refine ⟨leftNow.trans passed, faultNow.trans found, ?_⟩
        intro ends
        simp [left, fault?, pulled, empty, ends]
      | ok bytes =>
        obtain ⟨passed, found, last⟩ := pull_came outcome
        by_cases nothing : bytes.isEmpty = true
        · rw [read_of_end positive drained more outcome nothing]
          have gone : b.left = .empty := by
            rw [leftNow, passed, eq_empty_of_isEmpty nothing, last nothing]
            rfl
          have clean : b.fault? = Option.none := by
            rw [faultNow, found, last nothing]
            rfl
          have ended : left { b.pulled with finished := true } = .empty := by simp [left, pulled, empty]
          refine ⟨?_, clean, fun _ => ⟨gone, clean⟩⟩
          rw [gone, ended, ByteArray.empty_append]
        · have filled : bytes.isEmpty = false := by simpa using nothing
          have same : b.left = left { b.pulled with pending := bytes } := by
            rw [leftNow, passed]
            simp [left, pulled, more]
          have faults : b.fault? = fault? { b.pulled with pending := bytes } := by
            rw [faultNow, found]
            simp [fault?, pulled, more]
          have served := takes_serve (b := { b.pulled with pending := bytes }) positive
            (b.waits (pull b.rest)) filled
          rw [read_of_piece positive drained more outcome filled]
          simp only [Takes, same, faults]
          exact served
  · have filled : b.pending.isEmpty = false := by simpa using drained
    rw [read_of_pending positive filled]
    exact takes_serve positive [] filled

/-! ## All reads -/

/-- The reads of a body that ends with a failure: their bytes are those before its next failure, and they end in
that failure unless it is an interruption. -/
theorem reads_script (positive : n ≠ 0) (b : Body) (ends : b.kind.endsOnFailure = true) :
    ReadStep.join ((b.script n).takeWhile ReadStep.goesOn) = b.left ∧
    ReadStep.ending (b.script n) = b.fault?.filter (!·.isInterrupted) := by
  fun_induction script n b with
  | case1 b step next result last =>
    have takes := takes_read positive b
    rw [result] at takes
    cases outcome : step.outcome with
    | error reason => simp [ReadStep.isEnd, outcome] at last
    | ok bytes =>
      have nothing : bytes.isEmpty = true := by simpa [ReadStep.isEnd, outcome] using last
      simp only [Takes, outcome] at takes
      obtain ⟨gone, clean⟩ := takes.2.2 nothing
      simp [gone, clean, ReadStep.goesOn, ReadStep.ending, ReadStep.failure?, ReadStep.join, outcome, nothing]
  | case2 b step next result more ih =>
    have takes := takes_read positive b
    have kind := kind_read n b
    rw [result] at takes kind
    obtain ⟨bytes, ending⟩ := ih (by rw [kind, ends])
    cases outcome : step.outcome with
    | error reason =>
      simp only [Takes, outcome] at takes
      obtain ⟨gone, found, ended⟩ := takes
      rw [gone, found]
      -- An interruption is read past, but behind a failure such a body has nothing left.
      by_cases again : reason.isInterrupted = true
      · have on : step.goesOn = true := by simp [ReadStep.goesOn, outcome, again]
        obtain ⟨spent, clean⟩ := ended ends
        rw [List.takeWhile_cons_of_pos on, ReadStep.ending_cons_of_goesOn on, ReadStep.join, bytes, ending,
          spent, clean]
        simp [ReadStep.bytes, Option.filter_some, outcome, again]
      · have stop : step.goesOn = false := by simp [ReadStep.goesOn, outcome, again]
        rw [ReadStep.ending_cons_of_stop stop]
        simp [ReadStep.join, ReadStep.failure?, Option.filter_some, outcome, stop, again]
    | ok block =>
      simp only [Takes, outcome] at takes
      obtain ⟨front, same, _⟩ := takes
      have on : step.goesOn = true := by
        simpa [ReadStep.goesOn, ReadStep.isEnd, outcome] using more
      rw [List.takeWhile_cons_of_pos on, ReadStep.ending_cons_of_goesOn on, ReadStep.join, bytes, ending,
        front, same]
      simp [ReadStep.bytes, outcome]

end Reads

end Body
end MeteredDownload
