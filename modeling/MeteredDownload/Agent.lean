import MeteredDownload.Proxy
import MeteredDownload.Failure

/-!
# Agents

An agent makes the connections for a request: through a proxy where the environment names one, and with
the roots to trust where the connection is secure.  Without one the usual connections are made.
-/
set_option autoImplicit false
namespace MeteredDownload

inductive Anchor where
  | bundled
  | certificate (pem : String)
  deriving DecidableEq, Repr

structure Trust where
  anchors? : Option (List Anchor)
  deriving DecidableEq, Repr

/-- What makes connections other than the usual ones. -/
inductive Agent where
  | direct (anchors : List Anchor)
  | tunnel (proxy : Url) (anchors? : Option (List Anchor))
  | relay (proxy : Url)
  deriving DecidableEq, Repr

namespace Agent

def proxyUrl (proxy : List Char) : Except Failure Url :=
  match Url.resolve? none proxy with
  | some u => .ok u
  | none => .error (.invalidUrl (String.ofList proxy) none)

def proxyTarget (url : Url) : Except Failure Proxy.Target :=
  match Proxy.Target.ofHref url.href with
  | .ok t => .ok t
  | .error .credentials => .error .malformedEscape
  | .error .host => .error (.invalidUrl (String.ofList url.href) none)

def forRequest (env : Environment) (trust : Trust) (url : Url) : Except Failure (Option Agent) := do
  let isSecure := url.scheme = "https".toList
  match Proxy.forTarget? env (← proxyTarget url) with
  | some text =>
    let proxy ← proxyUrl text
    return some (if isSecure then tunnel proxy trust.anchors? else relay proxy)
  | none => return if isSecure then trust.anchors?.map direct else none

end Agent
end MeteredDownload
