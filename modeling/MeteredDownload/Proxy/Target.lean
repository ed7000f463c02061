import MeteredDownload.Url.Parser

/-!
# The target that a proxy is chosen for

A proxy is chosen by a look at the text of a URL that is plainer than the one by which the URL was read: all
schemes but a few have a host right behind the colon, with or without slashes, and a host ends at the first
character that no host has.  `Target.ofHref` takes that look.
-/
set_option autoImplicit false
namespace MeteredDownload.Proxy

open Url

structure Target where
  scheme : List Char
  host : List Char
  port : List Char
  deriving DecidableEq, Repr

inductive TargetFault where
  /-- The user name or the password is not the encoded form of a text. -/
  | credentials
  | host
  deriving DecidableEq, Repr

namespace Target

def slashedSchemes : List String := ["http", "https", "ftp", "gopher", "file", "ws", "wss"]

def hostlessSchemes : List String := ["javascript"]

def maxHostLength : Nat := 255

def endsAuthority (c : Char) : Bool := c = '/' || c = '?' || c = '#'

def endsHost (c : Char) : Bool :=
  [' ', '"', '%', '\'', ';', '<', '>', '\\', '^', '`', '|', '\x7b', '\x7d'].contains c

def isForbidden (c : Char) : Bool := c = '\x00' || c = '[' || c = ']'

/-- The text with the backslashes before its query and its fragment written as slashes. -/
def withSlashes : List Char → List Char
  | [] => []
  | c :: rest =>
    if c = '?' ∨ c = '#' then c :: rest
    else (if c = '\\' then '/' else c) :: withSlashes rest

def authority? (scheme s : List Char) : Option (List Char) :=
  if hostlessSchemes.contains (String.ofList scheme) then none
  else match s with
    | '/' :: '/' :: rest => some (rest.takeWhile (!endsAuthority ·))
    | s =>
      if slashedSchemes.contains (String.ofList scheme) then none
      else some (s.takeWhile (!endsAuthority ·))

def cutPort (s : List Char) : List Char × List Char :=
  match s.reverse.dropWhile Char.isDigit with
  | ':' :: front => (front.reverse, (s.reverse.takeWhile Char.isDigit).reverse)
  | _ => (s, [])

/-- The name of a host as it is looked up; an address stands between brackets. -/
def hostName? (s : List Char) : Option (List Char) :=
  if s.head? = some '[' ∧ s.getLast? = some ']' then
    some (if maxHostLength < s.length then [] else s.map Char.toLower)
  else
    let name := s.takeWhile (· ≠ ':')
    if name.isEmpty ∨ maxHostLength < name.length then some []
    else match Domain.ascii? (name.map Char.toLower) with
      | none => none
      | some name => if name.isEmpty || name.any isForbidden then none else some name

def ofAuthority (scheme authority : List Char) : Except TargetFault Target :=
  let (user?, rest) := cutLast '@' authority
  if (user?.map decodeStrictly?) = some none then .error .credentials
  else
    let (host, port) := cutPort (rest.takeWhile (!endsHost ·))
    match hostName? host with
    | none => .error .host
    | some host => .ok ⟨scheme, host, port⟩

def ofHref (href : List Char) : Except TargetFault Target :=
  let (scheme, rest?) := Text.cut ':' (withSlashes href)
  match authority? scheme (rest?.getD []) with
  | none => .ok ⟨scheme, [], []⟩
  | some authority => ofAuthority scheme authority

def isNamed (t : Target) : Bool := !t.host.isEmpty || !t.port.isEmpty

end Target
end MeteredDownload.Proxy
