import MeteredDownload.ByteBuffer

/-!
# What a growing buffer holds

`ByteBuffer.bytes` is what a reader of the buffer sees: the first `used` cells of its array.  As long as the buffer has
an array of its own with so many cells (`ByteBuffer.Fits`), appending adds the appended bytes behind them, whether or
not the buffer had to move to a larger array.  Nobody else's array changes, and nobody else's writes reach the buffer.
-/
set_option autoImplicit false
namespace MeteredDownload

theorem copySlice_eq (source cells : ByteArray) (start count : Nat) :
    source.copySlice 0 cells start count =
      cells.extract 0 start ++ source.extract 0 count ++
        cells.extract (start + min count source.size) cells.size := by
  rw [ByteArray.copySlice_eq_append, Nat.zero_add, Nat.sub_zero]
  rfl

theorem size_copySlice {source cells : ByteArray} {start count : Nat} (enough : count ≤ source.size)
    (fits : start + count ≤ cells.size) : (source.copySlice 0 cells start count).size = cells.size := by
  simp only [copySlice_eq, ByteArray.size_append, ByteArray.size_extract]
  omega

namespace Store

@[simp] theorem size_allocate (n : Nat) : (allocate n).cells.size = n := by
  simp [allocate, ByteArray.size]

@[simp] theorem size_own (n : Nat) : (own n).cells.size = n := by
  simp [own, ByteArray.size]

end Store

namespace Memory
variable {m : Memory} {address other : Nat}

theorem cells_add (cells : ByteArray) (m : Memory) (other : Nat) :
    (m.add cells).cells other = if other = m.next then cells else m.cells other := by
  unfold Memory.cells add next
  rw [Array.getElem?_push]
  split
  · rfl
  · rfl

@[simp] theorem next_add (cells : ByteArray) (m : Memory) : (m.add cells).next = m.next + 1 := Array.size_push ..

@[simp] theorem next_put (address start : Nat) (bytes : ByteArray) (m : Memory) :
    (m.put address start bytes).next = m.next :=
  Array.size_modify ..

theorem cells_put_of_ne (apart : other ≠ address) (start : Nat) (bytes : ByteArray) (m : Memory) :
    (m.put address start bytes).cells other = m.cells other := by
  simp [Memory.cells, put, Array.getElem?_modify, apart.symm]

theorem cells_put (there : address < m.next) (start : Nat) (bytes : ByteArray) :
    (m.put address start bytes).cells address = bytes.copySlice 0 (m.cells address) start bytes.size := by
  have here : address < m.arrays.size := there
  simp [Memory.cells, put, Array.getElem_modify, here]

theorem cells_of_le (absent : m.next ≤ address) : m.cells address = .empty := by
  have none : m.arrays[address]? = none := Array.getElem?_eq_none absent
  rw [Memory.cells, none, Option.getD_none]

/-- The first cells of an array hold the bytes that were put there, whatever it held before. -/
theorem extract_put (there : address < m.next) (bytes : ByteArray) :
    ((m.put address 0 bytes).cells address).extract 0 bytes.size = bytes := by
  rw [cells_put there, copySlice_eq, ByteArray.extract_same, ByteArray.empty_append, ByteArray.extract_zero_size]
  exact ByteArray.extract_append_eq_left rfl

theorem size_le_size_put (there : address < m.next) (bytes : ByteArray) :
    bytes.size ≤ ((m.put address 0 bytes).cells address).size := by
  simp only [cells_put there, copySlice_eq, ByteArray.size_append, ByteArray.size_extract]
  omega

theorem size_cells_put {start : Nat} {bytes : ByteArray} (fits : start + bytes.size ≤ (m.cells address).size)
    (other : Nat) : ((m.put address start bytes).cells other).size = (m.cells other).size := by
  by_cases same : other = address
  · subst same
    by_cases there : other < m.next
    · rw [cells_put there, size_copySlice (Nat.le_refl _) fits]
    · have absent : m.next ≤ other := Nat.le_of_not_lt there
      have still : (m.put other start bytes).next ≤ other := (next_put other start bytes m).symm ▸ absent
      rw [cells_of_le absent, cells_of_le still]
  · rw [cells_put_of_ne same]

end Memory

namespace ByteBuffer

def bytes (b : ByteBuffer) (m : Memory) : ByteArray := (m.cells b.address).extract 0 b.used

structure Fits (b : ByteBuffer) (m : Memory) : Prop where
  there : b.address < m.next
  used : b.used ≤ (m.cells b.address).size

section Fits
variable {b : ByteBuffer} {m : Memory}

theorem size_bytes (fits : b.Fits m) : (b.bytes m).size = b.used := by
  have used := fits.used
  simp only [bytes, ByteArray.size_extract]
  omega

theorem fits_withHint (length : Nat) (m : Memory) : (withHint length m).1.Fits (withHint length m).2 := by
  refine ⟨?_, Nat.zero_le _⟩
  rw [withHint, Memory.next_add]
  exact Nat.lt_succ_self _

theorem bytes_withHint (length : Nat) (m : Memory) : (withHint length m).1.bytes (withHint length m).2 = .empty :=
  ByteArray.extract_same

/-! ## Room for more -/

theorem reserve_of_le {needed : Nat} (enough : needed ≤ (m.cells b.address).size) : b.reserve needed m = (b, m) := by
  unfold reserve
  exact if_neg (Nat.not_lt.mpr enough)

def grown (needed : Nat) (b : ByteBuffer) (m : Memory) : ByteArray :=
  let cells := m.cells b.address
  let room := max needed (cells.size * 2)
  cells.copySlice 0 (Store.allocate room).cells 0 (min b.used room)

theorem reserve_of_lt {needed : Nat} (moves : (m.cells b.address).size < needed) :
    b.reserve needed m =
      (⟨m.next, (Store.allocate (max needed ((m.cells b.address).size * 2))).backing, b.used⟩,
        m.add (b.grown needed m)) := by
  unfold reserve grown
  dsimp only
  rw [if_pos moves, Store.size_allocate]

theorem size_grown (needed : Nat) (b : ByteBuffer) (m : Memory) :
    (b.grown needed m).size = max needed ((m.cells b.address).size * 2) := by
  simp only [grown, copySlice_eq, ByteArray.size_append, ByteArray.size_extract, Store.size_allocate]
  omega

@[simp] theorem used_reserve (needed : Nat) (b : ByteBuffer) (m : Memory) : (b.reserve needed m).1.used = b.used := by
  unfold reserve
  dsimp only
  split <;> rfl

theorem le_size_reserve (needed : Nat) (b : ByteBuffer) (m : Memory) :
    needed ≤ ((b.reserve needed m).2.cells (b.reserve needed m).1.address).size := by
  by_cases moves : (m.cells b.address).size < needed
  · rw [reserve_of_lt moves, Memory.cells_add, if_pos rfl, size_grown]
    exact Nat.le_max_left ..
  · rw [reserve_of_le (Nat.le_of_not_lt moves)]
    exact Nat.le_of_not_lt moves

/-- What it is to have made room: the bytes are as they were, where they were or in a new array, and no array of
anybody else has changed. -/
structure Reserves (b : ByteBuffer) (m : Memory) (home : ByteBuffer) (memory : Memory) : Prop where
  there : home.address < memory.next
  bytes : (memory.cells home.address).extract 0 b.used = b.bytes m
  address : home.address = b.address ∨ home.address = m.next
  next : m.next ≤ memory.next
  others : ∀ other, other < m.next → memory.cells other = m.cells other

theorem reserves_reserve (fits : b.Fits m) (needed : Nat) :
    Reserves b m (b.reserve needed m).1 (b.reserve needed m).2 := by
  by_cases moves : (m.cells b.address).size < needed
  · rw [reserve_of_lt moves]
    refine ⟨?_, ?_, .inr rfl, ?_, ?_⟩
    · rw [Memory.next_add]
      exact Nat.lt_succ_self _
    · have used := fits.used
      have copied : (b.bytes m).size = b.used := size_bytes fits
      have all : min b.used (max needed ((m.cells b.address).size * 2)) = b.used := by omega
      rw [Memory.cells_add, if_pos rfl]
      simp only [grown, all, copySlice_eq, ByteArray.extract_same, ByteArray.empty_append]
      exact ByteArray.extract_append_eq_left copied.symm
    · rw [Memory.next_add]
      exact Nat.le_succ _
    · intro other there
      rw [Memory.cells_add, if_neg (Nat.ne_of_lt there)]
  · rw [reserve_of_le (Nat.le_of_not_lt moves)]
    exact ⟨fits.there, rfl, .inl rfl, Nat.le_refl _, fun _ _ => rfl⟩

/-! ## Appending -/

/-- No append fails, whatever the buffer is: room is made for the bytes before they are written. -/
theorem append_eq (source count : Nat) (b : ByteBuffer) (m : Memory) :
    b.append source count m =
      let room := b.reserve (b.used + count) m
      .ok ({ room.1 with used := b.used + count },
        room.2.put room.1.address b.used ((room.2.cells source).extract 0 count)) := by
  have room := le_size_reserve (b.used + count) b m
  have within : b.used + (((b.reserve (b.used + count) m).2.cells source).extract 0 count).size ≤
      ((b.reserve (b.used + count) m).2.cells (b.reserve (b.used + count) m).1.address).size := by
    rw [ByteArray.size_extract]
    omega
  unfold append
  dsimp only
  rw [used_reserve, Memory.write, if_pos within]
  rfl

/-- An append adds the first bytes of the source to the buffer.  The buffer stays where it is or moves to a new
array, and no array of anybody else changes. -/
structure Appends (source count : Nat) (b : ByteBuffer) (m : Memory) (later : ByteBuffer) (after : Memory) : Prop where
  fits : later.Fits after
  bytes : later.bytes after = b.bytes m ++ (m.cells source).extract 0 count
  address : later.address = b.address ∨ later.address = m.next
  next : m.next ≤ after.next
  others : ∀ other, other < m.next → other ≠ b.address → after.cells other = m.cells other

theorem appends_append {source count : Nat} (fits : b.Fits m) (there : source < m.next)
    (enough : count ≤ (m.cells source).size) :
    ∃ later after, b.append source count m = .ok (later, after) ∧ Appends source count b m later after := by
  have reserves := reserves_reserve fits (b.used + count)
  have room := le_size_reserve (b.used + count) b m
  refine ⟨_, _, append_eq source count b m, ?_⟩
  revert reserves room
  generalize b.reserve (b.used + count) m = reserved
  obtain ⟨home, memory⟩ := reserved
  intro reserves room
  dsimp only at reserves room ⊢
  rw [reserves.others source there]
  have added : ((m.cells source).extract 0 count).size = count := by
    rw [ByteArray.size_extract]
    omega
  have within : b.used + ((m.cells source).extract 0 count).size ≤ (memory.cells home.address).size := by
    rwa [added]
  refine ⟨⟨?_, ?_⟩, ?_, reserves.address, ?_, ?_⟩
  · rw [Memory.next_put]
    exact reserves.there
  · rw [Memory.size_cells_put within]
    exact room
  · have before : (b.bytes m).size = b.used := size_bytes fits
    rw [bytes, Memory.cells_put reserves.there, copySlice_eq, reserves.bytes, ByteArray.extract_zero_size]
    apply ByteArray.extract_append_eq_left
    rw [ByteArray.size_append, added, before]
  · rw [Memory.next_put]
    exact reserves.next
  · intro other before apart
    -- The array of the buffer is its old one or a new one, so it is none of those that were there before.
    have away : other ≠ home.address := by
      rcases reserves.address with stays | moves
      · rwa [stays]
      · rw [moves]
        exact Nat.ne_of_lt before
    rw [Memory.cells_put_of_ne away, reserves.others other before]

theorem cells_toStore (fits : b.Fits m) : (b.toStore m).cells = b.bytes m := by
  unfold toStore
  dsimp only
  split
  · next full => rw [bytes, full, ByteArray.extract_zero_size]
  · have used := fits.used
    have nothing : (Store.own b.used).cells.extract b.used b.used = .empty := ByteArray.extract_same
    simp only [copySlice_eq, ByteArray.extract_same, ByteArray.empty_append, Nat.zero_add, Store.size_own]
    rw [Nat.min_eq_left used, Nat.min_eq_left used, nothing, ByteArray.append_empty, bytes]

end Fits
end ByteBuffer
end MeteredDownload
