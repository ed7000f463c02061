import MeteredDownload.Agent
import MeteredDownload.Body
import MeteredDownload.Http.Client
import MeteredDownload.Http.ContentLength

/-!
# Responses

A response has a status with its reason, headers, and a body in pieces.  Who gives it to one request is a `Wire`.
-/
set_option autoImplicit false
namespace MeteredDownload.Http

open Numeric

def isSuccess (status : Nat) : Bool := 200 ≤ status && status ≤ 299

def isRedirect (status : Nat) : Bool := [301, 302, 303, 307, 308].contains status

structure Response where
  status : Nat
  reason : String
  headers : List (String × String)
  pieces : List Piece

def header? (name : String) (headers : List (String × String)) : Option String :=
  (headers.find? fun h => h.1.map Char.toLower = name).map (·.2)

namespace Response

def announced? (r : Response) : Option Binary64 := (header? "content-length" r.headers).bind contentLength?

def ofBytes (bytes : ByteArray) : Response := ⟨200, "", [], [⟨0, .ok bytes⟩]⟩

def body (r : Response) : Body := .ofPieces .stream r.announced? r.pieces

end Response

structure Breakdown where
  reason : String
  code? : Option String
  deriving DecidableEq, Repr

/-- All that is behind the agents: connections, proxies and servers. -/
abbrev Wire := Option Agent → Request → Except Breakdown Response

end MeteredDownload.Http
