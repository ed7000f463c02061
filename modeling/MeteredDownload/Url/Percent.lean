import MeteredDownload.Text.Quoted

/-!
# Percent encoding

A character that may not stand in a part of a URL is written as its bytes, each as a percent sign and two
digits of base sixteen.  The sets of such characters grow from one part to the next.
-/
set_option autoImplicit false
namespace MeteredDownload.Url

def escapeByte (b : UInt8) : List Char := '%' :: (Text.hexDigits 2 b.toNat).map Char.toUpper

def escapeChar (c : Char) : List Char := (String.utf8EncodeChar c).flatMap escapeByte

def encode (set : Char → Bool) (s : List Char) : List Char :=
  s.flatMap fun c => if set c then escapeChar c else [c]

def isControl (c : Char) : Bool := c < ' ' || '~' < c

def inFragment (c : Char) : Bool := isControl c || [' ', '"', '<', '>', '`'].contains c
def inQuery (c : Char) : Bool := isControl c || [' ', '"', '#', '<', '>'].contains c
def inSpecialQuery (c : Char) : Bool := inQuery c || c = '\''
def inPath (c : Char) : Bool := inQuery c || ['?', '`', '\x7b', '\x7d'].contains c

def inUserInfo (c : Char) : Bool :=
  inPath c || ['/', ':', ';', '=', '@', '[', '\\', ']', '^', '|'].contains c

def hexValue? (c : Char) : Option Nat :=
  if c.isDigit then some (c.toNat - '0'.toNat)
  else if 'a' ≤ c ∧ c ≤ 'f' then some (c.toNat - 'a'.toNat + 10)
  else if 'A' ≤ c ∧ c ≤ 'F' then some (c.toNat - 'A'.toNat + 10)
  else none

/-- The bytes of a text in which encoded bytes are decoded.  A percent sign without two digits after it
stands for itself. -/
def decodeBytes : List Char → List UInt8
  | '%' :: a :: b :: rest =>
    match hexValue? a, hexValue? b with
    | some m, some n => UInt8.ofNat (16 * m + n) :: decodeBytes rest
    | _, _ => 37 :: decodeBytes (a :: b :: rest)
  | c :: rest => String.utf8EncodeChar c ++ decodeBytes rest
  | [] => []

def decode? (s : List Char) : Option (List Char) :=
  (String.fromUTF8? ⟨(decodeBytes s).toArray⟩).map String.toList

def hasWholeEscapes : List Char → Bool
  | [] => true
  | '%' :: a :: b :: rest => (hexValue? a).isSome && (hexValue? b).isSome && hasWholeEscapes rest
  | '%' :: _ => false
  | _ :: rest => hasWholeEscapes rest

/-- The text that encoded bytes stand for, if no percent sign stands for itself. -/
def decodeStrictly? (s : List Char) : Option (List Char) := if hasWholeEscapes s then decode? s else none

end MeteredDownload.Url
