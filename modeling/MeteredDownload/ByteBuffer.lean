import MeteredDownload.Value

/-!
# Growing byte buffers

Bytes are kept in arrays, which are known by their addresses.  A buffer writes into an array of its own and moves to
one at least twice as large when that is full.  It copies what is appended from another array, which stays with
whoever fills it.  `ByteBuffer.toStore` gives the bytes written.  Small arrays are cut from one large common store.
-/
set_option autoImplicit false
namespace MeteredDownload

open Numeric

/-- A row of cells, and the size of the memory that they are a part of. -/
structure Store where
  cells : ByteArray
  backing : Nat

namespace Store

/-- The size of the common store, from which stores below half of it are cut. -/
def poolSize : Nat := 8192

def own (n : Nat) : Store := ⟨⟨Array.replicate n 0⟩, n⟩

def allocate (n : Nat) : Store :=
  ⟨⟨Array.replicate n 0⟩, if 0 < n ∧ n < poolSize / 2 then poolSize else n⟩

def isExact (s : Store) : Bool := decide (s.backing ≤ s.cells.size)

end Store

structure Memory where
  arrays : Array ByteArray

namespace Memory

def cells (m : Memory) (address : Nat) : ByteArray := m.arrays[address]?.getD .empty

def next (m : Memory) : Nat := m.arrays.size

def add (cells : ByteArray) (m : Memory) : Memory := ⟨m.arrays.push cells⟩

def put (address start : Nat) (bytes : ByteArray) (m : Memory) : Memory :=
  ⟨m.arrays.modify address fun cells => bytes.copySlice 0 cells start bytes.size⟩

/-- Puts bytes over the cells from `start` on, where there are as many. -/
def write (address start : Nat) (bytes : ByteArray) (m : Memory) : Except Failure Memory :=
  if start + bytes.size ≤ (m.cells address).size then .ok (m.put address start bytes)
  else .error .beyondEnd

end Memory

/-- The bytes written so far stand in the first `used` cells of the array at `address`. -/
structure ByteBuffer where
  address : Nat
  backing : Nat
  used : Nat

namespace ByteBuffer

/-- The largest array made before any byte has come, whatever length is announced. -/
def maxPresize : Nat := 8 * 1024 * 1024

def withHint (length : Nat) (m : Memory) : ByteBuffer × Memory :=
  let first := Store.allocate (min length maxPresize)
  (⟨m.next, first.backing, 0⟩, m.add first.cells)

def forLength? (length : Binary64) (m : Memory) : Except Failure (ByteBuffer × Memory) :=
  let size := Binary64.min length (Binary64.ofNat maxPresize)
  if size.isNaN || size.lt 0 then .error (.bufferSize size)
  else .ok (withHint size.value.floor.toNat m)

def reserve (needed : Nat) (b : ByteBuffer) (m : Memory) : ByteBuffer × Memory :=
  let old := m.cells b.address
  if old.size < needed then
    let grown := Store.allocate (max needed (old.size * 2))
    -- A copy ends with the shorter of the two arrays.
    let moved := old.copySlice 0 grown.cells 0 (min b.used grown.cells.size)
    (⟨m.next, grown.backing, b.used⟩, m.add moved)
  else (b, m)

def append (source count : Nat) (b : ByteBuffer) (m : Memory) : Except Failure (ByteBuffer × Memory) := do
  let (b, m) := b.reserve (b.used + count) m
  let m ← m.write b.address b.used ((m.cells source).extract 0 count)
  return ({ b with used := b.used + count }, m)

/-- The bytes written: the array itself if it is full, otherwise a copy. -/
def toStore (b : ByteBuffer) (m : Memory) : Store :=
  let cells := m.cells b.address
  if b.used = cells.size then ⟨cells, b.backing⟩
  else
    let copy := Store.own b.used
    { copy with cells := cells.copySlice 0 copy.cells 0 (min b.used cells.size) }

end ByteBuffer
end MeteredDownload
