import MeteredDownload.Numeric.Decimal

/-!
# Values and failures

A failing source, status stream or listener may raise anything, and a log record may carry anything:
`Value` holds what they raise and carry.  `Failure` lists the causes of failure of this library, with the
facts that their messages tell; what outside parties raise is `Failure.raised`.
-/
set_option autoImplicit false
namespace MeteredDownload

open Numeric

inductive FailureKind where
  | error
  | typeError
  | rangeError
  deriving DecidableEq, Repr

inductive FileFault where
  | missing
  | occupied
  | notDirectory
  | isDirectory
  | nameTooLong
  | tooManyLinks
  deriving DecidableEq, Repr

inductive CertificateFault where
  | noStartLine
  | badEndLine
  | badBase64
  | unknownHeader
  | badStructure
  deriving DecidableEq, Repr

structure StatusLine where
  status : Binary64
  reason? : Option String
  deriving DecidableEq, Repr

mutual

/-- What can be raised, reported or logged.  A record keeps its fields in their order. -/
inductive Value where
  | undefined
  | null
  | bool (b : Bool)
  | number (x : Binary64)
  | text (s : String)
  | list (items : List Value)
  | record (fields : List (String × Value))
  | error (failure : Failure)

inductive Failure where
  | raised (kind : FailureKind) (message : String) (name? : Option String) (code : Value)
  | sampleCapacity (got : Binary64)
  | chunkSize (got : Binary64)
  | blockLength (got : Binary64)
  | memory
  | bufferSize (got : Binary64)
  | beyondEnd
  | pathWithNull (path : String)
  | unnamedLogFile
  | fileSystem (fault : FileFault) (call : String) (path? : Option String)
  | invalidUrl (input : String) (base? : Option String)
  | malformedEscape
  | withoutText
  | wholeNumber
  | circle (way : String)
  | urlCredentials (href : String)
  | urlScheme (given scheme : String)
  | headerContent (header : String)
  | malformedData (url : String)
  | noResponse (url reason : String) (code? : Option String)
  | redirectLimit (url : String)
  | redirectTarget (location : String)
  | aborted
  | certificate (fault : CertificateFault)
  | download (code url message : String) (cause : Value)
  | notFound (url : String)
  | transfer (url : String) (response? : Option StatusLine) (cause : Value)

end

instance : Inhabited Value := ⟨.undefined⟩
instance : Inhabited Failure := ⟨.aborted⟩

instance : Coe Failure Value := ⟨.error⟩

end MeteredDownload
