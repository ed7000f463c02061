import MeteredDownload.Failure
import MeteredDownload.Text.Base64

/-!
# Armoured data

A block of data stands in a text between a line that begins it and one that ends it, both with the same label.
A block may have a header: lines in front of its data, up to an empty line.  What stands outside of blocks does
not count, and neither do blocks of other labels than those wanted.

A text is read by its bytes, each of which is taken for the character of its code, and a long line in several
pieces, each of which then counts as a line.
-/
set_option autoImplicit false
namespace MeteredDownload.Certificate

open Text

def labels : List String := ["CERTIFICATE", "X509 CERTIFICATE", "TRUSTED CERTIFICATE"]

def dashes : List Char := List.replicate 5 '-'
def beginMark : List Char := dashes ++ "BEGIN ".toList
def endMark : List Char := dashes ++ "END ".toList

def orderMark : List Char := ['\xef', '\xbb', '\xbf']

def pieceLength : Nat := 254

/-- The text in pieces, of which the first has `room` bytes at most: each ends with a line or where it is full. -/
def pieces (room : Nat) : List Char → List (List Char)
  | [] => []
  | c :: rest =>
    if c = '\n' ∨ room ≤ 1 then [c] :: pieces pieceLength rest
    else match pieces (room - 1) rest with
      | [] => [[c]]
      | piece :: more => (c :: piece) :: more

def isPartial (piece : List Char) : Bool := piece.length = pieceLength && piece.getLast? ≠ some '\n'

def isTrailing (c : Char) : Bool := c ≤ ' ' || '\x7f' < c

def lineOf (piece : List Char) : List Char := (piece.reverse.dropWhile isTrailing).reverse

def beforeNull (s : List Char) : List Char := s.takeWhile (· ≠ '\x00')

def label? (line : List Char) : Option (List Char) :=
  let rest := line.drop beginMark.length
  if beginMark.isPrefixOf line ∧ dashes.isSuffixOf rest then
    some (beforeNull (rest.take (rest.length - dashes.length)))
  else none

/-- The label of the first block and what follows the line that begins it.  A mark that the text is one does not
count at the front of the first piece. -/
def findLabel? (isFirst : Bool) : List (List Char) → Option (List Char × List (List Char))
  | [] => none
  | piece :: rest =>
    let isMarked := isFirst && orderMark.isPrefixOf piece && orderMark.length < piece.length
    match label? (lineOf (if isMarked then piece.drop orderMark.length else piece)) with
    | some label => some (label, rest)
    | none => findLabel? false rest

inductive BlockPart where
  | front
  | header
  | data
  deriving DecidableEq, Repr

structure Block where
  part : BlockPart
  before : List Char
  behind : List Char
  inLine : Bool
  /-- Has there been a short line, behind which none of data may follow? -/
  isShort : Bool
  deriving DecidableEq, Repr

namespace Block

def start : Block := ⟨.front, [], [], false, false⟩

def lineLength : Nat := 64

/-- Adds an empty line: it ends the header, and there is only one.  The end of a line in pieces is none. -/
def addEmpty (b : Block) : Except CertificateFault Block :=
  if b.inLine then .ok b
  else if b.part = .data then .error .badEndLine
  else .ok { b with part := .data }

def addLine (line : List Char) (b : Block) : Except CertificateFault Block :=
  let text := beforeNull line
  if b.isShort then .error .badEndLine
  else if b.part ≠ .data then .ok { b with before := b.before ++ text }
  else if lineLength < line.length then .error .badEndLine
  else .ok { b with behind := b.behind ++ text, isShort := line.length < lineLength }

def read (label : List Char) (b : Block) :
    List (List Char) → Except CertificateFault (Block × List (List Char))
  | [] => .error .badEndLine
  | piece :: rest =>
    let line := lineOf piece
    let b := if b.part = .front ∧ piece.contains ':' then { b with part := .header } else b
    if endMark.isPrefixOf line then
      if line = endMark ++ label ++ dashes then .ok (b, rest) else .error .badEndLine
    else
      match if line.isEmpty then b.addEmpty else b.addLine line with
      | .error fault => .error fault
      | .ok b => read label { b with inLine := isPartial piece } rest

def dataText (b : Block) : List Char := if b.part = .front then b.before else b.behind

def hasHeader (b : Block) : Bool := b.part ≠ .front && !b.before.isEmpty

def data (b : Block) : Except CertificateFault (List UInt8) :=
  let isBlank (c : Char) : Bool := c = ' ' || c = '\t' || c = '\n' || c = '\r'
  match Base64.decode? ((b.dataText.takeWhile (· ≠ '-')).filter (!isBlank ·)) with
  | some (byte :: bytes) => .ok (byte :: bytes)
  | _ => .error .badBase64

end Block

/-- The data of the first block with a wanted label, of at most so many blocks.  That block has no header, and
those before it need only be blocks. -/
def findData : Nat → List (List Char) → Except CertificateFault (List UInt8)
  | 0, _ => .error .noStartLine
  | blocks + 1, pieces =>
    match findLabel? true pieces with
    | none => .error .noStartLine
    | some (label, rest) => do
      let (block, after) ← Block.start.read label rest
      let data ← block.data
      if !labels.contains (String.ofList label) then findData blocks after
      else if block.hasHeader then .error .unknownHeader
      else .ok data

def armouredData (bytes : List UInt8) : Except CertificateFault (List UInt8) :=
  let pieces := pieces pieceLength (bytes.map fun b => Char.ofNat b.toNat)
  findData (pieces.length + 1) pieces

end MeteredDownload.Certificate
