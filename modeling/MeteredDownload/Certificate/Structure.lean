import MeteredDownload.Certificate.Layout

/-!
# The structure of certificates

A certificate says what is certified, the algorithm of the signature, and the signature.  Where it is kept among
what is trusted, notes on how far to trust it may follow.
-/
set_option autoImplicit false
namespace MeteredDownload.Certificate

namespace Layout

def boolean : Layout := value booleanType
def integer : Layout := value integerType
def bits : Layout := value bitsType
def bytes : Layout := value bytesType
def identifier : Layout := value identifierType

def algorithm : Layout := sequence [identifier.required, anything.optional]

def nameTypes : List Nat := [3, 7, 8, 9, 11, 12, 13, 14, 15, 16, 18, 19, 20, 22, 28, 29, 30]

/-- A part of a name has an identifier, and a value that is a text if its type is one of texts. -/
def namePart : Layout := sequence [identifier.required, (oneOf nameTypes isText).required]

def name : Layout := sequenceOf (setOf namePart)

def time : Layout := oneOf [shortTimeType, longTimeType] fun _ _ => true

def validity : Layout := sequence [time.required, time.required]

def key : Layout := sequence [algorithm.required, bits.required]

def extension : Layout := sequence [identifier.required, boolean.optional, bytes.required]

def statement : Layout :=
  sequence
    [(wrapped 0 integer).optional, integer.required, algorithm.required, name.required,
      validity.required, name.required, key.required, (value bitsType (.context 1)).optional,
      (value bitsType (.context 2)).optional, (wrapped 3 (sequenceOf extension)).optional]

def certificate : Layout := sequence [statement.required, algorithm.required, bits.required]

/-- Notes on how far to trust a certificate: the uses that it is trusted for and those that it is not, a name, an
identifier, and more. -/
def notes : Layout :=
  sequence
    [(sequenceOf identifier).optional, (items (.context 0) identifier).optional,
      (value utf8Type).optional, bytes.optional, (items (.context 1) algorithm).optional]

end Layout

def beginsWithCertificate (bytes : List UInt8) : Bool :=
  match Layout.certificate bytes with
  | .found _ => true
  | _ => false

def isTrustedCertificate (bytes : List UInt8) : Bool :=
  match Layout.certificate bytes with
  | .found [] => true
  | .found rest =>
    match Layout.notes rest with
    | .found _ => true
    | _ => false
  | _ => false

end MeteredDownload.Certificate
