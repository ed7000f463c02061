import MeteredDownload.Value
import MeteredDownload.Text.Quoted

/-!
# What failures say

Each failure has a name, a message and, most of them, a code; `Failure.fields` are the facts that it
carries by name.  The text of a value is what stands for it inside a message.
-/
set_option autoImplicit false
namespace MeteredDownload

open Numeric Text

def FailureKind.name : FailureKind → String
  | error => "Error"
  | typeError => "TypeError"
  | rangeError => "RangeError"

namespace FileFault

def code : FileFault → String
  | missing => "ENOENT"
  | occupied => "EEXIST"
  | notDirectory => "ENOTDIR"
  | isDirectory => "EISDIR"
  | nameTooLong => "ENAMETOOLONG"
  | tooManyLinks => "ELOOP"

def description : FileFault → String
  | missing => "no such file or directory"
  | occupied => "file already exists"
  | notDirectory => "not a directory"
  | isDirectory => "illegal operation on a directory"
  | nameTooLong => "name too long"
  | tooManyLinks => "too many symbolic links encountered"

def errorNumber : FileFault → Nat
  | missing => 2
  | occupied => 17
  | notDirectory => 20
  | isDirectory => 21
  | nameTooLong => 36
  | tooManyLinks => 40

end FileFault

namespace CertificateFault

def code : CertificateFault → String
  | noStartLine => "ERR_OSSL_PEM_NO_START_LINE"
  | badEndLine => "ERR_OSSL_PEM_BAD_END_LINE"
  | badBase64 => "ERR_OSSL_PEM_BAD_BASE64_DECODE"
  | unknownHeader => "ERR_OSSL_PEM_NOT_PROC_TYPE"
  | badStructure => "ERR_OSSL_ASN1_WRONG_TAG"

def message : CertificateFault → String
  | noStartLine => "error:0480006C:PEM routines::no start line"
  | badEndLine => "error:04800066:PEM routines::bad end line"
  | badBase64 => "error:04800064:PEM routines::bad base64 decode"
  | unknownHeader => "error:0480006B:PEM routines::not proc type"
  | badStructure => "error:068000A8:asn1 encoding routines::wrong tag"

end CertificateFault

def StatusLine.text (r : StatusLine) : String :=
  match r.reason? with
  | none | some "" => "HTTP " ++ r.status.text
  | some reason => "HTTP " ++ r.status.text ++ " " ++ reason

namespace Failure

def name : Failure → String
  | raised kind _ name? _ => name?.getD kind.name
  | sampleCapacity _ | chunkSize _ | blockLength _ | memory | bufferSize _ | beyondEnd => "RangeError"
  | pathWithNull _ | invalidUrl _ _ | withoutText | wholeNumber | circle _ | urlCredentials _ | urlScheme _ _
  | headerContent _ | malformedData _ => "TypeError"
  | malformedEscape => "URIError"
  | unnamedLogFile | fileSystem _ _ _ | aborted | certificate _ => "Error"
  | noResponse _ _ _ | redirectLimit _ | redirectTarget _ => "FetchError"
  | download _ _ _ _ => "DownloadError"
  | notFound _ => "NotFoundError"
  | transfer _ _ _ => "TransferError"

def headline (name message : String) : String :=
  if name.isEmpty then message
  else if message.isEmpty then name
  else name ++ ": " ++ message

def grouped : List Char → List Char
  | [] => []
  | c :: rest =>
    if rest.length % 3 = 0 ∧ rest ≠ [] then c :: '_' :: grouped rest else c :: grouped rest

def sizeShown (x : Binary64) : String :=
  let s := x.text
  if x.isInteger && (Binary64.ofNat (Nat.pow 2 32)).lt (Binary64.max x x.neg) then
    match s.toList with
    | '-' :: digits => String.ofList ('-' :: grouped digits)
    | digits => String.ofList (grouped digits)
  else s

def shownLength : Nat := 128

def pathShown (path : String) : String :=
  let shown := displayed path
  if (units shown).length ≤ shownLength then shown
  else String.ofList (takeUnits shownLength shown.toList) ++ "..."

end Failure

mutual

def Value.asText : Value → String
  | .undefined => "undefined"
  | .null => "null"
  | .bool b => if b then "true" else "false"
  | .number x => x.text
  | .text s => s
  | .list items => String.intercalate "," (itemTexts items)
  | .record _ => "[object Object]"
  | .error f => Failure.headline f.name f.message

def itemTexts : List Value → List String
  | [] => []
  | .undefined :: rest | .null :: rest => "" :: itemTexts rest
  | v :: rest => v.asText :: itemTexts rest

/-- Does a text stand for the value?  A record that has something else under the name `toString` has none,
and neither has a list that holds one. -/
def Value.hasText : Value → Bool
  | .list items => haveText items
  | .record fields => (fields.lookup "toString").isNone
  | _ => true

def haveText : List Value → Bool
  | [] => true
  | v :: rest => v.hasText && haveText rest

def Value.reason : Value → String
  | .error f => f.message
  | v => v.asText

def Failure.message : Failure → String
  | .raised _ message _ _ => message
  | .sampleCapacity got => "Sample capacity must be a positive integer, got " ++ got.text
  | .chunkSize got => "Chunk size must be a positive integer, got " ++ got.text
  | .blockLength got => "Invalid typed array length: " ++ got.text
  | .memory => "Array buffer allocation failed"
  | .bufferSize got =>
    "The value of \"size\" is out of range. It must be >= 0 && <= 9007199254740991. Received "
      ++ Failure.sizeShown got
  | .beyondEnd => "offset is out of bounds"
  | .pathWithNull path =>
    "The argument 'path' must be a string, Uint8Array, or URL without null bytes. Received "
      ++ Failure.pathShown path
  | .unnamedLogFile => "Cannot log to file without filename or stream."
  | .fileSystem fault call path? =>
    fault.code ++ ": " ++ fault.description ++ ", " ++ call
      ++ match path? with
        | none => ""
        | some path => " '" ++ path ++ "'"
  | .invalidUrl _ _ => "Invalid URL"
  | .malformedEscape => "URI malformed"
  | .withoutText => "Cannot convert object to primitive value"
  | .wholeNumber => "Do not know how to serialize a BigInt"
  | .circle way => "Converting circular structure to JSON" ++ way
  | .urlCredentials href => href ++ " is an url with embedded credentials."
  | .urlScheme given scheme =>
    "node-fetch cannot load " ++ given ++ ". URL scheme \"" ++ scheme ++ "\" is not supported."
  | .headerContent header => "Invalid character in header content [\"" ++ header ++ "\"]"
  | .malformedData _ => "malformed data: URI"
  | .noResponse url reason _ => "request to " ++ url ++ " failed, reason: " ++ reason
  | .redirectLimit url => "maximum redirect reached at: " ++ url
  | .redirectTarget location =>
    "uri requested responds with an invalid redirect URL: " ++ location
  | .aborted => "aborted"
  | .certificate fault => fault.message
  | .download _ _ message _ => message
  | .notFound url => "Not found: " ++ url
  | .transfer _ (some response) _ => response.text
  | .transfer _ none cause => "Request failed: " ++ cause.reason

end

namespace Failure

def code : Failure → Value
  | raised _ _ _ code => code
  | sampleCapacity _ | chunkSize _ | blockLength _ | memory | beyondEnd | unnamedLogFile => .undefined
  | bufferSize _ => .text "ERR_OUT_OF_RANGE"
  | pathWithNull _ => .text "ERR_INVALID_ARG_VALUE"
  | fileSystem fault _ _ => .text fault.code
  | invalidUrl _ _ => .text "ERR_INVALID_URL"
  | headerContent _ => .text "ERR_INVALID_CHAR"
  | malformedEscape | withoutText | wholeNumber | circle _ | urlCredentials _ | urlScheme _ _
  | malformedData _ => .undefined
  | redirectLimit _ | redirectTarget _ => .undefined
  | noResponse _ _ code? => (code?.map Value.text).getD .undefined
  | aborted => .text "ECONNRESET"
  | certificate fault => .text fault.code
  | download code _ _ _ => .text code
  | notFound _ => .text "NOT_FOUND"
  | transfer _ _ _ => .text "TRANSFER_FAILED"

def url? : Failure → Option String
  | download _ url _ _ | notFound url | transfer url _ _ => some url
  | _ => none

def status? : Failure → Option Binary64
  | transfer _ response? _ => response?.map StatusLine.status
  | _ => none

def isDownload (f : Failure) : Bool := f.url?.isSome

def isNotFound : Failure → Bool
  | notFound _ => true
  | _ => false

def isTransfer : Failure → Bool
  | transfer _ _ _ => true
  | _ => false

/-- Was a read interrupted before any data came?  Then it can be tried again. -/
def isInterrupted (f : Failure) : Bool :=
  match f.code with
  | .text code => code = "EINTR"
  | _ => false

def ofStatus (url : String) (status : Nat) (reason : String) : Failure :=
  if status = 404 then notFound url else transfer url (some ⟨.ofNat status, some reason⟩) .undefined

/-- The failure of a request that got no response.  Its message needs a text for the cause. -/
def ofCause (url : String) (cause : Value) : Failure :=
  if cause.hasText then transfer url none cause else withoutText

def fields : Failure → List (String × Value)
  | raised _ _ name? code =>
    (match name? with
      | none => []
      | some name => [("name", .text name)]) ++ [("code", code)]
  | fileSystem fault call path? =>
    [("errno", .number (.ofInt (-fault.errorNumber))), ("code", .text fault.code), ("syscall", .text call)]
      ++ match path? with
        | none => []
        | some path => [("path", .text path)]
  | invalidUrl input base? =>
    [("code", .text "ERR_INVALID_URL"), ("input", .text input)]
      ++ match base? with
        | none => []
        | some base => [("base", .text base)]
  | noResponse _ _ code? =>
    let code := (code?.map Value.text).getD .undefined
    [("type", .text "system"), ("code", code), ("errno", code)]
  | redirectLimit _ => [("type", .text "max-redirect")]
  | redirectTarget _ => [("type", .text "invalid-redirect")]
  | download code url _ _ =>
    [("name", .text "DownloadError"), ("code", .text code), ("url", .text url)]
  | notFound url =>
    [("name", .text "NotFoundError"), ("code", .text "NOT_FOUND"), ("url", .text url)]
  | transfer url response? _ =>
    [("name", .text "TransferError"), ("code", .text "TRANSFER_FAILED"), ("url", .text url),
      ("status", (response?.map fun r => Value.number r.status).getD .undefined)]
  | f => [("code", f.code)]

end Failure

namespace Value

def isDownload : Value → Bool
  | error f => f.isDownload
  | _ => false

def isNotFound : Value → Bool
  | error f => f.isNotFound
  | _ => false

def isTransfer : Value → Bool
  | error f => f.isTransfer
  | _ => false

/-- Is it an interrupted read?  A value that is no failure never is, whatever code it carries. -/
def isInterrupted : Value → Bool
  | error f => f.isInterrupted
  | _ => false

end Value
end MeteredDownload
