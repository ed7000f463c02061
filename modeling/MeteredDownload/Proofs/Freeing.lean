import MeteredDownload.Proofs.ByteQueue

/-!
# When a close frees a body

A body begins with the first read that asks for a byte.  Until then nothing is taken from it
(`Body.IsIdle`), and a close finds nothing that it could bring to an end: the connection of a stream stays.
Once the body has begun, a close frees it, wherever it stands: between two pieces, inside one, at its end or
behind a failure.
-/
set_option autoImplicit false
namespace MeteredDownload

open Numeric

namespace Body

structure IsIdle (b : Body) : Prop where
  waiting : b.started = false
  more : b.finished = false
  drained : b.pending.isEmpty = true

section Read
variable {n : Nat} {b : Body}

theorem read_zero (b : Body) : b.read 0 = (⟨[], .ok .empty⟩, b) := by
  simp [read]

theorem started_read_of_started (begun : b.started = true) (n : Nat) : (b.read n).2.started = true := by
  unfold read
  split
  · exact begun
  split
  · exact begun
  split
  · exact begun
  dsimp only
  split
  · rfl
  · split <;> rfl

theorem started_read_of_isIdle (idle : b.IsIdle) (positive : n ≠ 0) : (b.read n).2.started = true := by
  cases outcome : (pull b.rest).outcome with
  | error reason => rw [read_of_failure positive idle.drained idle.more outcome, pulled]
  | ok bytes =>
    by_cases nothing : bytes.isEmpty = true
    · rw [read_of_end positive idle.drained idle.more outcome nothing, pulled]
    · have filled : bytes.isEmpty = false := by simpa using nothing
      rw [read_of_piece positive idle.drained idle.more outcome filled, serve, pulled]

end Read

section Reads
variable {b : Body}

theorem started_reads_of_started (begun : b.started = true) (sizes : List Nat) :
    (b.reads sizes).2.started = true := by
  induction sizes generalizing b with
  | nil => exact begun
  | cons n sizes ih => exact ih (started_read_of_started begun n)

theorem reads_of_zeros (b : Body) {sizes : List Nat} (zeros : ∀ n ∈ sizes, n = 0) : (b.reads sizes).2 = b := by
  induction sizes with
  | nil => rfl
  | cons n sizes ih =>
    have first : n = 0 := zeros n List.mem_cons_self
    have later := ih fun n member => zeros n (List.mem_cons_of_mem _ member)
    rw [first, reads, read_zero]
    exact later

theorem started_reads_iff (idle : b.IsIdle) (sizes : List Nat) :
    (b.reads sizes).2.started = true ↔ ∃ n ∈ sizes, n ≠ 0 := by
  induction sizes with
  | nil => simp [reads, idle.waiting]
  | cons n sizes ih =>
    by_cases first : n = 0
    · have same : (b.reads (n :: sizes)).2 = (b.reads sizes).2 := by rw [first, reads, read_zero]
      rw [same, ih]
      simp [first]
    · have begun := started_reads_of_started (started_read_of_isIdle idle first) sizes
      exact iff_of_true begun ⟨n, List.mem_cons_self, first⟩

end Reads

theorem isOver_close {b : Body} (heeds : b.kind ≠ .iterator) : b.close.isOver = b.started := by
  simp [isOver, close, heeds]

/-- A close frees a stream exactly if a byte was asked for before, whatever came of that.  If none was, the stream
is as it was in the beginning, and its connection stays. -/
theorem close_frees_iff_begun (announced? : Option Binary64) (chunks : List (Binary64 × Chunk))
    (sizes : List Nat) :
    let stream := ofChunks .stream announced? chunks
    let left := (stream.reads sizes).2
    (left.close.isOver = true ↔ ∃ n ∈ sizes, n ≠ 0) ∧ (left.close.isOver = false → left = stream) := by
  intro stream left
  have idle : stream.IsIdle := ⟨rfl, rfl, rfl⟩
  have heeds : left.kind ≠ .iterator := by
    have same : left.kind = .stream := kind_reads sizes stream
    rw [same]
    decide
  have freed : left.close.isOver = true ↔ ∃ n ∈ sizes, n ≠ 0 := by
    rw [isOver_close heeds]
    exact started_reads_iff idle sizes
  refine ⟨freed, ?_⟩
  intro kept
  apply reads_of_zeros
  intro n member
  by_contra positive
  rw [freed.mpr ⟨n, member, positive⟩] at kept
  cases kept

/-- A stream that nobody has read from is not freed by its close. -/
theorem not_freed_by_every_close :
    ¬ ∀ (announced? : Option Binary64) (chunks : List (Binary64 × Chunk)) (sizes : List Nat),
        ((ofChunks .stream announced? chunks).reads sizes).2.close.isOver = true := by
  intro every
  have freed := every none [(0, .text "abc")] []
  exact absurd freed (by decide)

end Body
end MeteredDownload
