import MeteredDownload.Url.Domain.Label
import MeteredDownload.Url.IPv4
import MeteredDownload.Url.IPv6

/-!
# Hosts

A host is an address or a name.  The names of well known schemes are domains, which are written in lower
case and in ASCII; all other schemes keep a name as it is, but for what has to be encoded.
-/
set_option autoImplicit false
namespace MeteredDownload.Url

def isForbiddenInHost (c : Char) : Bool :=
  ['\x00', '\t', '\n', '\r', ' ', '#', '/', ':', '<', '>', '?', '@', '[', '\\', ']', '^', '|'].contains c

def isForbiddenInDomain (c : Char) : Bool := isForbiddenInHost c || c < ' ' || c = '%' || c = '\x7f'

/-- The domain that a text names, in lower case and in ASCII.  One that ends in a number is an address. -/
def domain? (s : List Char) : Option (List Char) := do
  let name ← Domain.ascii? (← decode? s)
  if name.isEmpty || name.any isForbiddenInDomain then none
  else if IPv4.endsInNumber name then (IPv4.parse? name).map IPv4.text
  else some name

/-- The host that a text names.  `special` says whether it has to be a domain. -/
def readHost? (special : Bool) (s : List Char) : Option (List Char) :=
  match s with
  | '[' :: rest =>
    if rest.getLast? = some ']' then
      (IPv6.parse? rest.dropLast).map fun pieces => '[' :: IPv6.text pieces ++ [']']
    else none
  | _ =>
    if special then domain? s
    else if s.any isForbiddenInHost then none
    else some (encode isControl s)

end MeteredDownload.Url
