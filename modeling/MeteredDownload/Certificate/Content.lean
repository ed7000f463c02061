import MeteredDownload.Certificate.Element

/-!
# Contents of values

Not every content is a value of its type: `isContent` tells which are, and `isText` which contents are texts.
-/
set_option autoImplicit false
namespace MeteredDownload.Certificate

def isInteger : List UInt8 → Bool
  | [] => false
  | [_] => true
  | a :: b :: _ => !(a = 0 && b < 128) && !(a = 255 && 128 ≤ b)

/-- Is it a row of bits?  The first byte says how many bits of the last do not count. -/
def isBits : List UInt8 → Bool
  | [] => false
  | unused :: _ => unused ≤ 7

/-- Are these the numbers of an identifier?  Each is written in base 128 without a zero in front, and all of its
bytes have a high bit but the last; `within` says whether a number has begun. -/
def areNumbers (within : Bool) : List UInt8 → Bool
  | [] => !within
  | b :: rest => (within || b ≠ 128) && areNumbers (128 ≤ b) rest

def isIdentifier (content : List UInt8) : Bool := !content.isEmpty && areNumbers false content

/-- Is it the content of a value of the type?  Of most types every content is. -/
def isContent (type : Nat) (content : List UInt8) : Bool :=
  if type = booleanType then content.length = 1
  else if type = integerType || type = enumerationType then isInteger content
  else if type = bitsType then isBits content
  else if type = nullType then content.isEmpty
  else if type = identifierType then isIdentifier content
  else if type = shortTimeType then 13 ≤ content.length
  else if type = longTimeType then 15 ≤ content.length
  else if type = wideTextType then content.length % 4 = 0
  else if type = pairTextType then content.length % 2 = 0
  else true

def isCode (n : Nat) : Bool := n.isValidChar

def arePairCodes : List UInt8 → Bool
  | a :: b :: rest => isCode (256 * a.toNat + b.toNat) && arePairCodes rest
  | _ => true

def areWideCodes : List UInt8 → Bool
  | a :: b :: c :: d :: rest =>
    isCode (256 * (256 * (256 * a.toNat + b.toNat) + c.toNat) + d.toNat) && areWideCodes rest
  | _ => true

def isText (type : Nat) (content : List UInt8) : Bool :=
  if type = utf8Type then (String.fromUTF8? ⟨content.toArray⟩).isSome
  else if type = pairTextType then arePairCodes content
  else if type = wideTextType then areWideCodes content
  else true

end MeteredDownload.Certificate
