/-!
# Elements of data

Structured data are elements one after another.  Each has a header, which tells its tag and its length, and the
bytes of its content, which for a constructed element are elements again.  A constructed element can leave its
length open: then a mark of two zeros ends it.  `Header.content?` gives the content of a value; one that is a
string may come in parts.
-/
set_option autoImplicit false
namespace MeteredDownload.Certificate

inductive TagClass where
  | universal
  | application
  | context
  | proprietary
  deriving DecidableEq, Repr

structure Tag where
  tagClass : TagClass
  number : Nat
  deriving DecidableEq, Repr

structure Header where
  tag : Tag
  isConstructed : Bool
  /-- The bytes of the content, unless a mark ends it. -/
  length? : Option Nat
  deriving DecidableEq, Repr

def Tag.universal (type : Nat) : Tag := ⟨.universal, type⟩

def Tag.context (n : Nat) : Tag := ⟨.context, n⟩

def TagClass.ofByte (b : Nat) : TagClass :=
  match b / 64 with
  | 0 => universal
  | 1 => application
  | 2 => context
  | _ => proprietary

def maxTagFront : Nat := 0xFFFFFF

/-- The number of a tag that has bytes of its own: digits in base 128, each with a high bit but the last. -/
def tagNumber? (front : Nat) : List UInt8 → Option (Nat × List UInt8)
  | [] => none
  | b :: rest =>
    let number := 128 * front + b.toNat % 128
    if b.toNat < 128 then some (number, rest)
    else if maxTagFront < number then none
    else tagNumber? number rest

def maxLength : Nat := 0x7FFFFFFFFFFFFFFF

def longLength? (count : Nat) (bytes : List UInt8) : Option (Nat × List UInt8) :=
  let digits := (bytes.take count).dropWhile (· = 0)
  let length := digits.foldl (fun n b => 256 * n + b.toNat) 0
  if bytes.length ≤ count ∨ 8 < digits.length ∨ maxLength < length then none
  else some (length, bytes.drop count)

def length? : List UInt8 → Option (Option Nat × List UInt8)
  | [] => none
  | b :: rest =>
    if b.toNat < 128 then some (some b.toNat, rest)
    else if b.toNat = 128 then some (none, rest)
    else (longLength? (b.toNat - 128) rest).map fun (length, rest) => (some length, rest)

/-- The header at the front of the bytes, and what follows it.  A length has to fit into the bytes, and one that
is left open needs a constructed element. -/
def header? : List UInt8 → Option (Header × List UInt8)
  | [] => none
  | b :: rest => do
    let (number, rest) ←
      if b.toNat % 32 = 31 then tagNumber? 0 rest else some (b.toNat % 32, rest)
    let (length?, rest) ← length? rest
    let isConstructed := decide (b.toNat / 32 % 2 = 1)
    let fits := match length? with
      | none => isConstructed
      | some length => decide (length ≤ rest.length)
    if fits then some (⟨⟨.ofByte b.toNat, number⟩, isConstructed, length?⟩, rest) else none

def afterEnd? : List UInt8 → Option (List UInt8)
  | 0 :: 0 :: rest => some rest
  | _ => none

/-- What follows the marks that end so many elements of open length, in at most so many steps.  Each step takes
two bytes or more. -/
def afterEnds? : Nat → Nat → List UInt8 → Option (List UInt8)
  | 0, _, _ => none
  | steps + 1, opened, bytes =>
    match afterEnd? bytes with
    | some rest => if opened ≤ 1 then some rest else afterEnds? steps (opened - 1) rest
    | none => do
      let (h, rest) ← header? bytes
      match h.length? with
      | none => afterEnds? steps (opened + 1) rest
      | some length => afterEnds? steps opened (rest.drop length)

def maxDepth : Nat := 5

/-- The bytes of the parts of a string, whatever their tags, and what follows them, in at most so many steps.
Parts can have parts, down to `depth` levels; `isOpen` says that a mark ends them. -/
def parts? : Nat → Nat → Bool → List UInt8 → Option (List UInt8 × List UInt8)
  | 0, _, _, _ => none
  | steps + 1, depth, isOpen, bytes =>
    if bytes.isEmpty then if isOpen then none else some ([], [])
    else match afterEnd? bytes with
      | some rest => if isOpen then some ([], rest) else none
      | none => do
        let (h, body) ← header? bytes
        let (front, after) ←
          match h.isConstructed, depth, h.length? with
          | false, _, length? => some (body.take (length?.getD 0), body.drop (length?.getD 0))
          | true, 0, _ => none
          | true, depth + 1, none => parts? steps depth true body
          | true, depth + 1, some length =>
            (parts? steps depth false (body.take length)).map fun (front, _) => (front, body.drop length)
        let (back, rest) ← parts? steps depth isOpen after
        return (front ++ back, rest)

/-! ## General types -/

def booleanType : Nat := 1
def integerType : Nat := 2
def bitsType : Nat := 3
def bytesType : Nat := 4
def nullType : Nat := 5
def identifierType : Nat := 6
def enumerationType : Nat := 10
def utf8Type : Nat := 12
def sequenceType : Nat := 16
def setType : Nat := 17
def shortTimeType : Nat := 23
def longTimeType : Nat := 24
def wideTextType : Nat := 28
def pairTextType : Nat := 30

def structuredTypes : List Nat := [sequenceType, setType]

def indivisibleTypes : List Nat := [booleanType, integerType, nullType, identifierType, enumerationType]

namespace Header

def skip? (h : Header) (body : List UInt8) : Option (List UInt8) :=
  match h.length? with
  | some length => some (body.drop length)
  | none => afterEnds? body.length 1 body

/-- The content of the element as a value of a general type, and what follows it.  What is within a structured
value is not looked into. -/
def content? (type : Nat) (h : Header) (body : List UInt8) : Option (List UInt8 × List UInt8) :=
  if structuredTypes.contains type then
    if h.isConstructed then (h.skip? body).map ([], ·) else none
  else match h.isConstructed, h.length? with
    | false, length? => some (body.take (length?.getD 0), body.drop (length?.getD 0))
    | true, length? =>
      if indivisibleTypes.contains type then none
      else match length? with
        | none => parts? (body.length + 1) maxDepth true body
        | some length =>
          (parts? (length + 1) maxDepth false (body.take length)).map fun (content, _) =>
            (content, body.drop length)

end Header
end MeteredDownload.Certificate
