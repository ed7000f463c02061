import MeteredDownload.Certificate.Load
import MeteredDownload.Downloader
import MeteredDownload.Http.DataUrl
import MeteredDownload.Http.Response

/-!
# Fetching URLs

`respond` sends a request over a wire and follows redirects.  `Transport.fetch` gives the body of a response of success,
whatever it is that gets the response.  Every other outcome is the failure of a download: there is nothing at the
URL, the status says something else, or there was no response at all.
-/
set_option autoImplicit false
namespace MeteredDownload.Http

open Numeric Log

def redirectLimit : Nat := 20

/-- What stands in for a request where its URL would be told. -/
def requestMark : String := "[object Request]"

def isHeaderChar (c : Char) : Bool :=
  c = '\t' || (' ' ≤ c && c ≤ '~') || ('\u0080' ≤ c && c ≤ '\u00ff')

def headerValue (s : String) : String :=
  let isSpace (c : Char) : Bool := c = ' ' || c = '\t'
  String.ofList ((s.toList.dropWhile isSpace).reverse.dropWhile isSpace).reverse

/-- The URL that a proxy is asked for: the path of a request with its query, read as a URL relative to the host
of the request.  Whatever host that leads to, an unusual port of the request stays. -/
def relayed (url : Url) : Except Failure Url :=
  let base := url.scheme ++ [':', '/', '/'] ++ url.hostAndPort
  let path := url.pathAndQuery
  match (Url.resolve? none base).bind fun base => Url.resolve? (some base) path with
  | some target => .ok { target with port? := url.port?.or target.port? }
  | none => .error (.invalidUrl (String.ofList path) (some (String.ofList base)))

def addressed (agent? : Option Agent) (url : Url) : Except Failure Url :=
  match agent? with
  | some (.relay _) => relayed url
  | _ => .ok url

def transmit (wire : Wire) (client : Client) (agent? : Option Agent) (url : Url) (target : String) :
    Program Response := do
  let request : Request := ⟨target, headerValue client.userAgent⟩
  modify fun w => { w with requests := w.requests.push request }
  match wire agent? request with
  | .ok response => return response
  | .error broken => Program.fail (.noResponse (String.ofList url.href) broken.reason broken.code?)

def exchange (wire : Wire) (client : Client) (agent? : Option Agent) (url : Url) : Program Response :=
  match addressed agent? url with
  | .ok target => transmit wire client agent? url (String.ofList target.requestText)
  | .error failure => Program.fail failure

def prepare (client : Client) (url : Url) : Program (Option Agent) := do
  if url.hasCredentials then Program.fail (.urlCredentials (String.ofList url.href))
  if !client.userAgent.toList.all isHeaderChar then Program.fail (.headerContent "User-Agent")
  match Agent.forRequest (← get).environment client.trust url with
  | .ok agent? => return agent?
  | .error failure => Program.fail failure

/-- The response to a request that is not redirected: `given` is the URL as it was given. -/
def send (wire : Wire) (client : Client) (given : String) (url : Url) : Program Response := do
  let agent? ← prepare client url
  match String.ofList url.scheme with
  | "data" =>
    match dataBytes? (url.href.drop (url.scheme.length + 1)) with
    | some bytes => return .ofBytes bytes
    | none => Program.fail (.malformedData (String.ofList url.href))
  | "http" | "https" => exchange wire client agent? url
  | scheme => Program.fail (.urlScheme given scheme)

/-- Passes a redirect on, to a URL that has to be one; any other response is the last. -/
def redirected (url : Url) (response : Response) (next : Url → Program Response) : Program Response :=
  match if isRedirect response.status then header? "location" response.headers else none with
  | none => return response
  | some location =>
    match Url.resolve? (some url) location.toList with
    | none => Program.fail (.redirectTarget location)
    | some target => next target

def follow (wire : Wire) (client : Client) : Nat → String → Url → Program Response
  | 0, given, url => do
    let response ← send wire client given url
    redirected url response fun _ => Program.fail (.redirectLimit (String.ofList url.href))
  | left + 1, given, url => do
    let response ← send wire client given url
    redirected url response fun target => follow wire client left requestMark target

def respond (wire : Wire) (client : Client) (url : String) : Program Response :=
  match Url.parse? url with
  | none => Program.fail (.invalidUrl url none)
  | some target => follow wire client redirectLimit url target

/-- What gets the response to a request for what a text names, or fails where there is none. -/
abbrev Transport := Client → String → Program Response

def Transport.fetch (transport : Transport) (client : Client) : Fetcher := fun url => do
  Program.note (.debug "Sending request" [("url", .text url)])
  let response ← tryCatch (transport client url) fun reason => do
    Program.note (.debug "Request failed" [("url", .text url), ("error", reason)])
    Program.fail (.ofCause url reason)
  let status := ("status", Value.number (.ofNat response.status))
  if isSuccess response.status then
    let announced? := response.announced?
    let length := (announced?.map Value.number).getD .undefined
    Program.note
      (.debug "Response received" [("url", .text url), status, ("contentLength", length)])
    return .ofBody response.body .works
  else
    Program.note (.debug "Request rejected" [("url", .text url), status])
    Program.fail (.ofStatus url response.status response.reason)

end MeteredDownload.Http
