import MeteredDownload.Proofs.Body

/-!
# When a transfer takes a part for the whole

A body that is over with its first failure has nothing after it.  A transfer passes such a failure on, unless it
is an interruption: that read is tried again, and finds the end.  So the transfer gives what came before the
interruption as if it were everything (`IsTruncated`), and it does so in no other case.
-/
set_option autoImplicit false
namespace MeteredDownload

open Numeric

/-- The first failure among the pieces is an interruption, and bytes come after it. -/
def IsTruncated (pieces : List Piece) : Prop :=
  ∃ reason, firstFailure? pieces = some reason ∧ reason.isInterrupted = true ∧
    bytesOf (beforeFailure pieces) ≠ bytesOf pieces

/-- What a transfer comes to by the pieces of a body that is over with its first failure: an interruption ends
it like the end of the body. -/
def FollowsPieces (pieces : List Piece) (outcome : Except Value Store) : Prop :=
  match firstFailure? pieces with
  | none => ∃ store, outcome = .ok store ∧ store.cells = bytesOf pieces
  | some reason =>
    if reason.isInterrupted then
      ∃ store, outcome = .ok store ∧ store.cells = bytesOf (beforeFailure pieces)
    else outcome = .error reason

namespace Body
variable {kind : BodyKind} {pieces : List Piece} {n : Nat}

theorem left_ofPieces (given : kind ≠ .absent) (announced? : Option Binary64) :
    (ofPieces kind announced? pieces).left = bytesOf (beforeFailure pieces) := by
  simp [left, ofPieces, given]

theorem fault?_ofPieces (given : kind ≠ .absent) (announced? : Option Binary64) :
    (ofPieces kind announced? pieces).fault? = firstFailure? pieces := by
  simp [fault?, ofPieces, given]

end Body

theorem followsPieces_of_follows {κ : Type} {kind : BodyKind} {announced? : Option Binary64}
    {pieces : List Piece} {blockSize : Nat} {result : TransferResult κ} (positive : blockSize ≠ 0)
    (ends : kind = .generator ∨ kind = .stream)
    (follows : result.Follows ((Body.ofPieces kind announced? pieces).script blockSize)) :
    FollowsPieces pieces result.outcome := by
  have given : kind ≠ .absent := by rcases ends with rfl | rfl <;> decide
  have last : (Body.ofPieces kind announced? pieces).kind.endsOnFailure = true := by
    rcases ends with rfl | rfl <;> rfl
  obtain ⟨bytes, ending⟩ := Body.reads_script positive _ last
  rw [Body.left_ofPieces given] at bytes
  rw [Body.fault?_ofPieces given] at ending
  unfold FollowsPieces
  cases first : firstFailure? pieces with
  | none =>
    have whole := follows.bytes (by rw [ending, first]; rfl)
    rwa [bytes, beforeFailure_of_none first] at whole
  | some reason =>
    rw [first, Option.filter_some] at ending
    by_cases again : reason.isInterrupted = true
    · have whole := follows.bytes (by simpa [again] using ending)
      rw [bytes] at whole
      simpa [again] using whole
    · have passed := follows.failure reason (by simpa [again] using ending)
      simpa [again] using passed

/-- Only a body that is truncated passes for a whole one that it is not. -/
theorem whole_iff_of_followsPieces {pieces : List Piece} {outcome : Except Value Store}
    (follows : FollowsPieces pieces outcome) :
    (∀ store, outcome = .ok store → store.cells = bytesOf pieces) ↔ ¬ IsTruncated pieces := by
  unfold FollowsPieces at follows
  cases first : firstFailure? pieces with
  | none =>
    rw [first] at follows
    obtain ⟨store, rfl, cells⟩ := follows
    simp [IsTruncated, first, cells]
  | some reason =>
    rw [first] at follows
    by_cases again : reason.isInterrupted = true
    · simp only [again, if_true] at follows
      obtain ⟨store, rfl, cells⟩ := follows
      simp [IsTruncated, first, again, cells]
    · simp only [again, Bool.false_eq_true, if_false] at follows
      subst follows
      simp [IsTruncated, first, again]

namespace Transfer
variable {κ : Type} [Clock κ]

theorem follows_or_unread {options : TransferOptions} {blockSize capacity : Nat}
    (sized : options.chunkSize.positiveInteger? = some blockSize)
    (sampled : options.speedSamples.positiveInteger? = some capacity) (unopposed : options.Unopposed)
    (source : Source) (clock : κ) (terminal : Terminal) :
    (run options source clock terminal).Follows (source.reads blockSize) ∨
    ((run options source clock terminal).visits = #[] ∧
      ∃ failure : Failure, (run options source clock terminal).outcome = .error failure) := by
  rw [run_of_sound sized sampled]
  cases made : (opened options source.announced? clock terminal blockSize capacity).allocate with
  | ok room => exact .inl (download_follows made unopposed source)
  | error failure =>
    obtain ⟨outcome, visits⟩ := reading_of_refused made source
    exact .inr ⟨visits, failure, outcome⟩

/-- A transfer of a body that is over with its first failure gives the whole body or fails, unless the body is
truncated: then what came before the interruption is given.  Before any of it, the transfer may find no room
for the bytes, and fails. -/
theorem whole_or_truncated (options : TransferOptions) (kind : BodyKind) (announced? : Option Binary64)
    (pieces : List Piece) (closing : Closing) (clock : κ) (terminal : Terminal) (blockSize capacity : Nat)
    (sized : options.chunkSize.positiveInteger? = some blockSize)
    (sampled : options.speedSamples.positiveInteger? = some capacity) (unopposed : options.Unopposed)
    (ends : kind = .generator ∨ kind = .stream) :
    let result := run options (.ofBody (.ofPieces kind announced? pieces) closing) clock terminal
    (options.HasRoom blockSize → Source.AnnouncesLength announced? → result.visits ≠ #[]) ∧
    (result.visits = #[] → ∃ failure : Failure, result.outcome = .error failure) ∧
    (result.visits ≠ #[] → FollowsPieces pieces result.outcome) ∧
    ((∀ store, result.outcome = .ok store → store.cells = bytesOf pieces) ↔
      ¬ (result.visits ≠ #[] ∧ IsTruncated pieces)) := by
  intro result
  have positive : blockSize ≠ 0 := (Binary64.eq_finite_of_positiveInteger? sized).2.ne'
  have cases := follows_or_unread sized sampled unopposed
    (.ofBody (.ofPieces kind announced? pieces) closing) clock terminal
  refine ⟨?_, ?_, ?_, ?_⟩
  · intro room announced
    have follows := run_follows_of_room options sized sampled unopposed room
      (.ofBody (.ofPieces kind announced? pieces) closing) clock terminal announced
    exact follows.visits_ne_empty
  · intro unread
    rcases cases with follows | ⟨_, refused⟩
    · exact absurd unread follows.visits_ne_empty
    · exact refused
  · intro begun
    rcases cases with follows | ⟨unread, _⟩
    · exact followsPieces_of_follows positive ends follows
    · exact absurd unread begun
  · rcases cases with follows | ⟨unread, failure, refused⟩
    · rw [whole_iff_of_followsPieces (followsPieces_of_follows positive ends follows)]
      simp [result, follows.visits_ne_empty]
    · simp [result, unread, refused]

/-- An interruption between two pieces: the second is lost, and nobody hears of it. -/
theorem whole_or_truncated_of_interruption :
    let pieces : List Piece :=
      [⟨0, .ok ⟨#[97, 98, 99]⟩⟩, ⟨5, .error (.error (.raised .error "interrupted" none (.text "EINTR")))⟩,
        ⟨0, .ok ⟨#[100, 101, 102]⟩⟩]
    let result := run ⟨2, 5, 1000, none, fun _ => true⟩ (.ofBody (.ofPieces .generator (some 6) pieces) .works) ()
      (.fresh .healthy)
    result.visits ≠ #[] ∧ (∃ store, result.outcome = .ok store ∧ store.cells = ⟨#[97, 98, 99]⟩) ∧
      ¬ ∀ store, result.outcome = .ok store → store.cells = bytesOf pieces := by
  intro pieces result
  have announced : Source.AnnouncesLength (some 6) := by
    intro length announced
    cases announced
    exact ⟨by decide +kernel, by decide +kernel⟩
  obtain ⟨begun, _, follows, whole⟩ :=
    whole_or_truncated ⟨2, 5, 1000, none, fun _ => true⟩ .generator (some 6) pieces .works
    () (.fresh .healthy) 2 5 (by decide +kernel) (by decide +kernel) nofun
    (.inl rfl)
  have read := begun ⟨by decide, rfl⟩ announced
  have truncated : IsTruncated pieces := ⟨_, rfl, rfl, by decide⟩
  refine ⟨read, follows read, ?_⟩
  intro all
  exact whole.mp all ⟨read, truncated⟩

/-- A transfer of a stream does not always give the whole body or fail. -/
theorem not_whole_of_every_body :
    ¬ ∀ (options : TransferOptions) (kind : BodyKind) (announced? : Option Binary64) (pieces : List Piece)
        (closing : Closing) (clock : Unit) (terminal : Terminal) (blockSize capacity : Nat),
        options.chunkSize.positiveInteger? = some blockSize →
        options.speedSamples.positiveInteger? = some capacity → options.Unopposed →
        kind = .generator ∨ kind = .stream →
        ∀ store, (run options (.ofBody (.ofPieces kind announced? pieces) closing) clock
          terminal).outcome = .ok store → store.cells = bytesOf pieces := by
  intro every
  let pieces : List Piece :=
    [⟨0, .ok ⟨#[97]⟩⟩, ⟨0, .error (.error (.raised .error "interrupted" none (.text "EINTR")))⟩,
      ⟨0, .ok ⟨#[98]⟩⟩]
  have sized : Binary64.positiveInteger? 8192 = some 8192 := by decide +kernel
  have sampled : Binary64.positiveInteger? 5 = some 5 := by decide +kernel
  have unopposed : TransferOptions.Unopposed ⟨8192, 5, 1000, none, fun _ => true⟩ := nofun
  have follows := run_follows_of_room ⟨8192, 5, 1000, none, fun _ => true⟩ sized sampled unopposed ⟨by decide, rfl⟩
    (.ofBody (.ofPieces .stream none pieces) .works) () (.fresh .silent) nofun
  obtain ⟨store, came, cells⟩ := followsPieces_of_follows (by decide) (.inr rfl) follows
  have whole := every ⟨8192, 5, 1000, none, fun _ => true⟩ .stream none pieces .works () (.fresh .silent) 8192 5 sized
    sampled unopposed (.inr rfl) store came
  rw [whole] at cells
  exact absurd cells (by decide)

end Transfer
end MeteredDownload
