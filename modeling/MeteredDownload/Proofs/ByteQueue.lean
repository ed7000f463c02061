import MeteredDownload.Proofs.Body

/-!
# A body as a queue of bytes

Chunks go in whole and bytes come out by the read, however long the blocks are that are asked for: the bytes that
were given, with those at hand behind them, are those of the chunks that were pulled (`Body.Queue`).  A read pulls
no chunk as long as bytes are at hand, passes over chunks without bytes, and serves from the last that it pulled
(`Body.Served`).
-/
set_option autoImplicit false
namespace MeteredDownload

open Numeric

def Piece.IsBlank (piece : Piece) : Prop := piece.outcome = .ok .empty

theorem bytesOf_append (first second : List Piece) :
    bytesOf (first ++ second) = bytesOf first ++ bytesOf second := by
  induction first with
  | nil => simp [bytesOf, ReadStep.join]
  | cons piece rest ih =>
    simp only [bytesOf, List.cons_append, List.map_cons, ReadStep.join] at ih ⊢
    rw [ih, ByteArray.append_assoc]

theorem bytesOf_of_blank {pieces : List Piece} (blank : ∀ piece ∈ pieces, piece.IsBlank) :
    bytesOf pieces = .empty := by
  induction pieces with
  | nil => rfl
  | cons piece rest ih =>
    have none : piece.outcome = .ok .empty := blank piece (by simp)
    rw [bytesOf_cons none, ih fun later member => blank later (by simp [member]), ByteArray.empty_append]

theorem bytesOf_singleton_of_error {piece : Piece} {reason : Value} (failed : piece.outcome = .error reason) :
    bytesOf [piece] = .empty := by
  simp [bytesOf, ReadStep.join, ReadStep.bytes, Piece.whole, failed]

theorem pull_cases (pieces : List Piece) :
    ((pull pieces).outcome = .ok .empty ∧ (pull pieces).rest = [] ∧ (pull pieces).taken = pieces.length ∧
      ∀ piece ∈ pieces, piece.IsBlank) ∨
    ∃ skipped piece, pieces = skipped ++ piece :: (pull pieces).rest ∧
      (pull pieces).taken = skipped.length + 1 ∧ (∀ piece ∈ skipped, piece.IsBlank) ∧
      piece.outcome = (pull pieces).outcome ∧ ¬ piece.IsBlank := by
  -- By induction on the pieces, as they are pulled: only a blank one lets the next be pulled.
  induction pieces with
  | nil => exact .inl ⟨rfl, rfl, rfl, nofun⟩
  | cons piece rest ih =>
    cases outcome : piece.outcome with
    | error reason =>
      refine .inr ⟨[], piece, ?_, ?_, nofun, ?_, ?_⟩
      · simp [pull, outcome]
      · simp [pull, outcome]
      · simp [pull, outcome]
      · simp [Piece.IsBlank, outcome]
    | ok bytes =>
      by_cases nothing : bytes.isEmpty = true
      · have blank : piece.IsBlank := by rw [Piece.IsBlank, outcome, eq_empty_of_isEmpty nothing]
        have same : pull (piece :: rest) = { pull rest with
            delays := piece.delay :: (pull rest).delays, taken := (pull rest).taken + 1 } := by
          simp only [pull, outcome, nothing, if_true]
        rw [same]
        rcases ih with ⟨came, left, taken, blanks⟩ | ⟨skipped, last, parts, taken, blanks, came, filled⟩
        · refine .inl ⟨came, left, by simp [taken], ?_⟩
          simpa [blank] using blanks
        · refine .inr ⟨piece :: skipped, last, ?_, by simp [taken], ?_, came, filled⟩
          · dsimp only
            rw [List.cons_append, ← parts]
          · simpa [blank] using blanks
      · refine .inr ⟨[], piece, ?_, ?_, nofun, ?_, ?_⟩
        · simp [pull, outcome, nothing]
        · simp [pull, outcome, nothing]
        · simp [pull, outcome, nothing]
        · intro blank
          rw [Piece.IsBlank, outcome] at blank
          cases blank
          exact nothing rfl

/-! ## One read -/

namespace Body

/-- The body has given these bytes of the pieces that were pulled from it, and keeps the others at hand. -/
structure Queue (pulled : List Piece) (given : ByteArray) (b : Body) : Prop where
  taken : b.taken = pulled.length
  bytes : given ++ b.pending = bytesOf pulled
  kept : b.pending = .empty ∨
    ∃ piece front, pulled.getLast? = some piece ∧ piece.outcome = .ok (front ++ b.pending)
  stops : b.finished = true → b.rest = [] ∨ b.kind.endsOnFailure = true ∧
    ∃ piece reason, pulled.getLast? = some piece ∧ piece.outcome = .error reason

/-- What a read of at most `n` bytes does to a body from which these pieces had been pulled, and then more. -/
structure Served (n : Nat) (before : Body) (pulled more : List Piece) (step : ReadStep) (after : Body) : Prop where
  fits : step.bytes.size ≤ n
  single : step.bytes = .empty ∨ ∃ piece front back,
    (pulled ++ more).getLast? = some piece ∧ piece.outcome = .ok (front ++ step.bytes ++ back)
  fails : ∀ reason, step.outcome = .error reason →
    ∃ piece, (pulled ++ more).getLast? = some piece ∧ piece.outcome = .error reason
  pulls : more ≠ [] → n ≠ 0 ∧ before.pending = .empty
  skips : ∀ piece ∈ more.dropLast, piece.IsBlank
  ends : n ≠ 0 → step.outcome = .ok .empty → after.finished = true

section Read
variable {pulled : List Piece} {given : ByteArray} {b : Body} {n : Nat}

theorem cut (n : Nat) (bytes : ByteArray) : bytes.extract 0 n ++ bytes.extract n bytes.size = bytes := by
  rw [ByteArray.extract_append_extract, Nat.zero_min, ByteArray.extract_zero_max_size]

theorem extract_ne_empty {bytes : ByteArray} (positive : n ≠ 0) (filled : bytes.isEmpty = false) :
    bytes.extract 0 n ≠ .empty := by
  intro nothing
  have size := size_pos_of_isEmpty_eq_false filled
  have empty := congrArg ByteArray.size nothing
  simp only [ByteArray.size_extract, ByteArray.size_empty] at empty
  omega

theorem serve_queue (queue : Queue pulled given b) (positive : n ≠ 0) (filled : b.pending.isEmpty = false)
    (delays : List Binary64) :
    Queue pulled (given ++ (b.serve n delays).1.bytes) (b.serve n delays).2 ∧
      (b.serve n delays).1.bytes.size ≤ n ∧ (b.serve n delays).1.outcome ≠ .ok .empty ∧
      ∃ piece front back, pulled.getLast? = some piece ∧
        piece.outcome = .ok (front ++ (b.serve n delays).1.bytes ++ back) := by
  have served : (b.serve n delays).1.bytes = b.pending.extract 0 n := rfl
  have kept : (b.serve n delays).2.pending = b.pending.extract n b.pending.size := rfl
  -- The bytes at hand are cut in two, and both are parts of the last piece.
  have parts := cut n b.pending
  rcases queue.kept with empty | ⟨piece, front, last, whole⟩
  · rw [empty] at filled
    cases filled
  refine ⟨⟨queue.taken, ?_, .inr ⟨piece, front ++ b.pending.extract 0 n, last, ?_⟩, queue.stops⟩, ?_, ?_,
    piece, front, b.pending.extract n b.pending.size, last, ?_⟩
  · rw [served, kept, ByteArray.append_assoc, parts, queue.bytes]
  · rw [kept, ByteArray.append_assoc, parts, whole]
  · rw [served, ByteArray.size_extract]
    omega
  · intro nothing
    exact extract_ne_empty positive filled (Except.ok.inj nothing)
  · rw [served, ByteArray.append_assoc, parts, whole]

theorem served_nothing (queue : Queue pulled given b) (ends : n ≠ 0 → b.finished = true) :
    ∃ more, b.rest = more ++ b.rest ∧ Queue (pulled ++ more) (given ++ ReadStep.bytes ⟨[], .ok .empty⟩) b ∧
      Served n b pulled more ⟨[], .ok .empty⟩ b := by
  refine ⟨[], rfl, ?_, Nat.zero_le n, .inl rfl, nofun, nofun, nofun, fun positive _ => ends positive⟩
  rw [List.append_nil, ReadStep.bytes, ByteArray.append_empty]
  exact queue

theorem queue_of_piece (queue : Queue pulled given b) (drained : b.pending = .empty) {skipped : List Piece}
    {piece : Piece} {bytes : ByteArray} (taken : (pull b.rest).taken = skipped.length + 1)
    (blanks : ∀ piece ∈ skipped, piece.IsBlank) (came : piece.outcome = .ok bytes) (more : b.finished = false) :
    Queue (pulled ++ (skipped ++ [piece])) given { b.pulled with pending := bytes } := by
  have before : given = bytesOf pulled := by simpa [drained] using queue.bytes
  refine ⟨?_, ?_, .inr ⟨piece, .empty, by simp, by simp [came]⟩, ?_⟩
  · simp [Body.pulled, queue.taken, taken]
  · have last : bytesOf [piece] = bytes := by
      rw [bytesOf_cons came]
      exact ByteArray.append_empty
    rw [bytesOf_append, bytesOf_append, bytesOf_of_blank blanks, ByteArray.empty_append, last, ← before]
  · intro ended
    simp [Body.pulled, more] at ended

theorem read_queue (queue : Queue pulled given b) (n : Nat) :
    ∃ more, b.rest = more ++ (b.read n).2.rest ∧
      Queue (pulled ++ more) (given ++ (b.read n).1.bytes) (b.read n).2 ∧
      Served n b pulled more (b.read n).1 (b.read n).2 := by
  by_cases positive : n = 0
  · have idle : b.read n = (⟨[], .ok .empty⟩, b) := by simp [read, positive]
    rw [idle]
    exact served_nothing queue fun nonzero => absurd positive nonzero
  -- While bytes of the last piece are at hand, nothing is pulled.
  by_cases filled : b.pending.isEmpty = false
  · obtain ⟨later, fits, served, single⟩ := serve_queue queue positive filled []
    rw [read_of_pending positive filled]
    refine ⟨[], rfl, ?_, fits, .inr ?_, ?_, fun some => absurd rfl some, ?_, fun _ nothing => absurd nothing served⟩
    · rw [List.append_nil]
      exact later
    · rw [List.append_nil]
      exact single
    · intro reason failed
      cases failed
    · intro piece member
      cases member
  have drained : b.pending.isEmpty = true := by simpa using filled
  have empty := eq_empty_of_isEmpty drained
  by_cases ended : b.finished = true
  · rw [read_of_finished positive drained ended]
    exact served_nothing queue fun _ => ended
  have goes : b.finished = false := by simpa using ended
  have before : given = bytesOf pulled := by simpa [empty] using queue.bytes
  -- Pieces are pulled: up to the end of the body, up to a failure, or up to one with bytes, which is then served.
  rcases pull_cases b.rest with ⟨came, left, taken, blanks⟩ | ⟨skipped, piece, parts, taken, blanks, same, nonblank⟩
  · rw [read_of_end positive drained goes came rfl]
    have skips : ∀ piece ∈ b.rest.dropLast, piece.IsBlank :=
      fun piece member => blanks piece (List.dropLast_subset _ member)
    refine ⟨b.rest, ?_, ⟨?_, ?_, .inl empty, fun _ => .inl left⟩, Nat.zero_le n, .inl rfl, ?_,
      fun _ => ⟨positive, empty⟩, skips, fun _ _ => rfl⟩
    · simp [Body.pulled, left]
    · simp [Body.pulled, queue.taken, taken]
    · rw [bytesOf_append, bytesOf_of_blank blanks, ← before]
      simp [ReadStep.bytes, Body.pulled, empty]
    · intro reason failed
      cases failed
  have pieces : b.rest = (skipped ++ [piece]) ++ (pull b.rest).rest := by simpa using parts
  have skips : ∀ blank ∈ (skipped ++ [piece]).dropLast, blank.IsBlank := by simpa using blanks
  have last : (pulled ++ (skipped ++ [piece])).getLast? = some piece := by simp
  cases outcome : (pull b.rest).outcome with
  | error reason =>
    have failed : piece.outcome = .error reason := same.trans outcome
    rw [read_of_failure positive drained goes outcome]
    refine ⟨skipped ++ [piece], pieces, ⟨?_, ?_, .inl empty, ?_⟩, Nat.zero_le n, .inl rfl, ?_,
      fun _ => ⟨positive, empty⟩, skips, ?_⟩
    · simp [Body.pulled, queue.taken, taken]
    · rw [bytesOf_append, bytesOf_append, bytesOf_of_blank blanks, bytesOf_singleton_of_error failed, ← before]
      simp [ReadStep.bytes, Body.pulled, empty]
    · intro stops
      exact .inr ⟨stops, piece, reason, last, failed⟩
    · intro other thrown
      cases thrown
      exact ⟨piece, last, failed⟩
    · intro _ nothing
      cases nothing
  | ok bytes =>
    have came : piece.outcome = .ok bytes := same.trans outcome
    have filled : bytes.isEmpty = false := by
      by_contra nothing
      have gone : bytes = .empty := eq_empty_of_isEmpty (by simpa using nothing)
      exact nonblank (by rw [Piece.IsBlank, came, gone])
    obtain ⟨later, fits, served, single⟩ :=
      serve_queue (queue_of_piece queue empty taken blanks came goes) positive filled (b.waits (pull b.rest))
    rw [read_of_piece positive drained goes outcome filled]
    refine ⟨skipped ++ [piece], pieces, later, fits, .inr single, ?_, fun _ => ⟨positive, empty⟩, skips,
      fun _ nothing => absurd nothing served⟩
    intro reason failed
    cases failed

end Read

/-! ## All reads, and a close -/

def reads : List Nat → Body → List ReadStep × Body
  | [], b => ([], b)
  | n :: sizes, b =>
    let (step, next) := b.read n
    let (steps, last) := next.reads sizes
    (step :: steps, last)

theorem kind_reads (sizes : List Nat) (b : Body) : (b.reads sizes).2.kind = b.kind := by
  induction sizes generalizing b with
  | nil => rfl
  | cons n sizes ih => exact (ih (b.read n).2).trans (kind_read n b)

theorem reads_queue {pulled : List Piece} {given : ByteArray} {b : Body} (queue : Queue pulled given b)
    (sizes : List Nat) :
    ∃ more, b.rest = more ++ (b.reads sizes).2.rest ∧
      Queue (pulled ++ more) (given ++ ReadStep.join (b.reads sizes).1) (b.reads sizes).2 := by
  induction sizes generalizing pulled given b with
  | nil =>
    refine ⟨[], rfl, ?_⟩
    rw [List.append_nil]
    simpa [reads, ReadStep.join] using queue
  | cons n sizes ih =>
    obtain ⟨first, parts, next, _⟩ := read_queue queue n
    obtain ⟨more, rest, last⟩ := ih next
    refine ⟨first ++ more, ?_, ?_⟩
    · rw [parts, rest, List.append_assoc]
      rfl
    · rw [List.append_assoc, ByteArray.append_assoc] at last
      exact last

theorem read_close {b : Body} (heeds : b.kind ≠ .iterator) (n : Nat) :
    b.close.read n = (⟨[], .ok .empty⟩, b.close) := by
  by_cases positive : n = 0
  · simp [read, positive]
  · exact read_of_finished positive rfl (by simp [close, heeds])

theorem reads_close {b : Body} (heeds : b.kind ≠ .iterator) (sizes : List Nat) :
    b.close.reads sizes = (sizes.map fun _ => ⟨[], .ok .empty⟩, b.close) := by
  induction sizes with
  | nil => rfl
  | cons n sizes ih => simp [reads, read_close heeds, ih]

end Body

/-! ## A body by what its source gives -/

namespace Chunk

def content : Chunk → ByteArray
  | bytes content => content
  | text content => content.toUTF8
  | failure _ => .empty

def contents : List (Binary64 × Chunk) → ByteArray
  | [] => .empty
  | chunk :: rest => chunk.2.content ++ contents rest

def timed (chunk : Binary64 × Chunk) : Piece := chunk.2.piece chunk.1

theorem bytesOf_timed (chunks : List (Binary64 × Chunk)) : bytesOf (chunks.map timed) = contents chunks := by
  induction chunks with
  | nil => rfl
  | cons chunk rest ih =>
    rcases chunk with ⟨delay, _ | _ | _⟩
    all_goals
      rw [contents, ← ih]
      rfl

theorem content_of_ok {chunk : Binary64 × Chunk} {bytes : ByteArray} (came : (timed chunk).outcome = .ok bytes) :
    chunk.2.content = bytes := by
  rcases chunk with ⟨delay, _ | _ | _⟩
  · exact Except.ok.inj came
  · exact Except.ok.inj came
  · cases came

theorem failure_of_error {chunk : Binary64 × Chunk} {reason : Value}
    (failed : (timed chunk).outcome = .error reason) : chunk.2 = .failure reason := by
  rcases chunk with ⟨delay, _ | _ | other⟩
  · cases failed
  · cases failed
  · cases failed
    rfl

theorem last_of_timed {chunks : List (Binary64 × Chunk)} {piece : Piece}
    (last : (chunks.map timed).getLast? = some piece) :
    ∃ chunk, chunks.getLast? = some chunk ∧ timed chunk = piece := by
  rw [List.getLast?_map] at last
  exact Option.map_eq_some_iff.mp last

end Chunk

namespace Body

/-- A read of at most `n` bytes, made after those that had given the bytes, treats the body as a queue of the bytes
of the chunks. -/
structure Refines (chunks : List (Binary64 × Chunk)) (given : ByteArray) (n : Nat) (before : Body) (step : ReadStep)
    (after : Body) : Prop where
  queued : given ++ before.pending = Chunk.contents (chunks.take before.taken)
  kept : given ++ step.bytes ++ after.pending = Chunk.contents (chunks.take after.taken)
  order : before.taken ≤ after.taken ∧ after.taken ≤ chunks.length
  fits : step.bytes.size ≤ n
  /-- The bytes are a part of one chunk, the last that was pulled. -/
  single : step.bytes = .empty ∨ ∃ chunk front back,
    (chunks.take after.taken).getLast? = some chunk ∧ chunk.2.content = front ++ step.bytes ++ back
  fails : ∀ reason, step.outcome = .error reason →
    ∃ delay, (chunks.take after.taken).getLast? = some (delay, .failure reason)
  pulls : before.taken < after.taken → n ≠ 0 ∧ before.pending = .empty
  /-- Of the chunks that the read pulled, all but the last were empty, and no failure was among them. -/
  skips : ∀ chunk ∈ ((chunks.take after.taken).drop before.taken).dropLast,
    chunk.2.content = .empty ∧ ∀ reason, chunk.2 ≠ .failure reason
  /-- There is nothing to give when all chunks were pulled, or behind a failure that ends the body. -/
  ends : n ≠ 0 → step.outcome = .ok .empty → after.taken = chunks.length ∨
    after.kind.endsOnFailure = true ∧
      ∃ delay reason, (chunks.take after.taken).getLast? = some (delay, .failure reason)

theorem failed_last {chunks : List (Binary64 × Chunk)} {piece : Piece} {reason : Value}
    (last : (chunks.map Chunk.timed).getLast? = some piece) (failed : piece.outcome = .error reason) :
    ∃ delay, chunks.getLast? = some (delay, .failure reason) := by
  obtain ⟨⟨delay, chunk⟩, found, rfl⟩ := Chunk.last_of_timed last
  have same : chunk = .failure reason := Chunk.failure_of_error failed
  rw [same] at found
  exact ⟨delay, found⟩

theorem refines_of_served {first more later : List (Binary64 × Chunk)} {given : ByteArray} {n : Nat}
    {before after : Body} {step : ReadStep} (queue : Queue (first.map Chunk.timed) given before)
    (next : Queue ((first ++ more).map Chunk.timed) (given ++ step.bytes) after)
    (rest : after.rest = later.map Chunk.timed)
    (served : Served n before (first.map Chunk.timed) (more.map Chunk.timed) step after) :
    Refines (first ++ more ++ later) given n before step after := by
  have here : before.taken = first.length := by simpa using queue.taken
  have there : after.taken = (first ++ more).length := by simpa using next.taken
  -- The pieces of the queue are the chunks in front, so what is known of pieces becomes known of chunks.
  have pulledBefore : (first ++ more ++ later).take before.taken = first := by
    rw [here, List.append_assoc, List.take_left]
  have pulledAfter : (first ++ more ++ later).take after.taken = first ++ more := by
    rw [there, List.take_left]
  refine ⟨?_, ?_, ?_, served.fits, ?_, ?_, ?_, ?_, ?_⟩
  · rw [pulledBefore, queue.bytes, Chunk.bytesOf_timed]
  · rw [pulledAfter, next.bytes, Chunk.bytesOf_timed]
  · rw [here, there]
    simp
  · rw [pulledAfter]
    refine served.single.imp_right ?_
    rintro ⟨piece, front, back, last, came⟩
    rw [← List.map_append] at last
    obtain ⟨chunk, found, rfl⟩ := Chunk.last_of_timed last
    exact ⟨chunk, front, back, found, Chunk.content_of_ok came⟩
  · intro reason thrown
    obtain ⟨piece, last, failed⟩ := served.fails reason thrown
    rw [← List.map_append] at last
    rw [pulledAfter]
    exact failed_last last failed
  · intro grown
    apply served.pulls
    intro none
    rw [here, there, List.map_eq_nil_iff.mp none] at grown
    simp at grown
  · rw [pulledAfter, here, List.drop_left]
    intro chunk member
    have blank : (Chunk.timed chunk).IsBlank := by
      apply served.skips
      rw [← List.map_dropLast]
      exact List.mem_map_of_mem member
    refine ⟨Chunk.content_of_ok blank, ?_⟩
    intro reason same
    rw [Piece.IsBlank, Chunk.timed, same] at blank
    cases blank
  · intro positive nothing
    rcases next.stops (served.ends positive nothing) with none | ⟨ends, piece, reason, last, failed⟩
    · have gone : later = [] := by simpa [rest] using none
      rw [there, gone, List.append_nil]
      exact .inl rfl
    · obtain ⟨delay, found⟩ := failed_last last failed
      rw [pulledAfter]
      exact .inr ⟨ends, delay, reason, found⟩

/-- A body is a queue of the bytes of its chunks, whatever the sizes of the reads are, and once it was closed it gives
nothing and takes nothing, unless it comes from an iterator that cannot be closed. -/
theorem reads_refine_queue (kind : BodyKind) (announced? : Option Binary64) (chunks : List (Binary64 × Chunk))
    (sizes : List Nat) (n : Nat) :
    let source := if kind = .absent then [] else chunks
    let (steps, before) := (ofChunks kind announced? chunks).reads sizes
    Refines source (ReadStep.join steps) n before (before.read n).1 (before.read n).2 ∧
      (kind ≠ .iterator → ∀ later : List Nat,
        before.close.reads later = (later.map fun _ => ⟨[], .ok .empty⟩, before.close)) := by
  intro source
  dsimp only
  have pieces : (ofChunks kind announced? chunks).rest = source.map Chunk.timed := by
    show (if kind = .absent then [] else chunks.map Chunk.timed) = source.map Chunk.timed
    by_cases none : kind = .absent
    · simp [source, none]
    · simp [source, none]
  have fresh : Queue ([].map Chunk.timed) .empty (ofChunks kind announced? chunks) :=
    ⟨rfl, rfl, .inl rfl, nofun⟩
  obtain ⟨first, parts, queue⟩ := reads_queue fresh sizes
  obtain ⟨more, rest, next, served⟩ := read_queue queue n
  -- What was pulled, before the last read and by it, and what was not, are three parts of the source.
  have split : source.map Chunk.timed =
      first ++ (more ++ (((ofChunks kind announced? chunks).reads sizes).2.read n).2.rest) := by
    rw [← pieces, parts, rest]
  obtain ⟨front, others, whole, rfl, back⟩ := List.map_eq_append_iff.mp split
  obtain ⟨middle, behind, between, rfl, last⟩ := List.map_eq_append_iff.mp back
  refine ⟨?_, ?_⟩
  · rw [whole, between, ← List.append_assoc]
    refine refines_of_served ?_ ?_ last.symm ?_
    · simpa using queue
    · simpa using next
    · simpa using served
  · intro heeds later
    apply reads_close
    rw [kind_reads]
    exact heeds

/-- A character of two bytes is cut in two, and a failure loses nothing of what stands around it. -/
example :
    let chunks : List (Binary64 × Chunk) :=
      [(0, .text "é"), (0, .bytes .empty), (0, .failure .null), (0, .bytes ⟨#[7, 8]⟩)]
    ((ofChunks .iterator none chunks).reads [1, 5, 5, 0, 5, 5]).1.map (·.bytes.data) =
      [#[0xC3], #[0xA9], #[], #[], #[7, 8], #[]] := by
  decide +kernel

end Body
end MeteredDownload
