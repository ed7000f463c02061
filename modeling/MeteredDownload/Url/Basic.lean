import MeteredDownload.Url.Host

/-!
# URLs

A URL consists of a scheme, an authority, a path, a query and a fragment.  The path is a list of segments,
except that some URLs of schemes other than the well known ones have a text of no structure there.
-/
set_option autoImplicit false
namespace MeteredDownload

namespace Url

inductive Path where
  | verbatim (text : List Char)
  | segments (names : List (List Char))
  deriving DecidableEq, Repr

def fileScheme : List Char := ['f', 'i', 'l', 'e']

def usualPorts : List (List Char × Nat) :=
  [("http".toList, 80), ("https".toList, 443), ("ftp".toList, 21), ("ws".toList, 80), ("wss".toList, 443)]

def isSpecial (scheme : List Char) : Bool := scheme = fileScheme || (usualPorts.lookup scheme).isSome

end Url

/-- A URL; all its parts are encoded as they are to be written. -/
structure Url where
  scheme : List Char
  username : List Char
  password : List Char
  host? : Option (List Char)
  port? : Option Nat
  path : Url.Path
  query? : Option (List Char)
  fragment? : Option (List Char)
  deriving DecidableEq, Repr

namespace Url

def Path.text : Path → List Char
  | verbatim text => text
  | segments names => names.flatMap ('/' :: ·)

def pathname (u : Url) : List Char := u.path.text

def hasCredentials (u : Url) : Bool := !u.username.isEmpty || !u.password.isEmpty

def hostAndPort (u : Url) : List Char :=
  u.host?.getD [] ++ match u.port? with
    | none => []
    | some port => ':' :: (toString port).toList

def authorityText (u : Url) : List Char :=
  match u.host? with
  | some _ =>
    let user :=
      if !u.hasCredentials then []
      else if u.password.isEmpty then u.username ++ ['@']
      else u.username ++ ':' :: u.password ++ ['@']
    ['/', '/'] ++ user ++ u.hostAndPort
  | none =>
    match u.path with
    | .segments ([] :: _ :: _) => ['/', '.']
    | _ => []

def pathAndQuery (u : Url) : List Char :=
  u.pathname ++ match u.query? with
    | none => []
    | some query => '?' :: query

def requestText (u : Url) : List Char := u.scheme ++ ':' :: u.authorityText ++ u.pathAndQuery

def href (u : Url) : List Char :=
  u.requestText ++ match u.fragment? with
    | none => []
    | some fragment => '#' :: fragment

end Url
end MeteredDownload
