/-!
# Command line arguments

One URL, at most one output path, and a certificate in either spelling, `--cert FILE` or `--cert=FILE`,
anywhere between them and any number of times; the last certificate counts.
-/
set_option autoImplicit false
namespace MeteredDownload

structure Arguments where
  url : String
  output? : Option String
  certificate? : Option String
  deriving DecidableEq, Repr

namespace Arguments

def certificateFlag : String := "--cert"

def attachedCertificate? (argument : String) : Option String :=
  let flag := (certificateFlag ++ "=").toList
  if flag.isPrefixOf argument.toList then some (String.ofList (argument.toList.drop flag.length))
  else none

/-- The positional arguments and the last certificate.  A bare `--cert` takes the next argument, whatever
it looks like, and fails if there is none or it is empty. -/
def scan? : List String → Option (List String × Option String)
  | [] => some ([], none)
  | [argument] =>
    if argument = certificateFlag then none
    else match attachedCertificate? argument with
      | some path => some ([], some path)
      | none => some ([argument], none)
  | argument :: next :: rest =>
    if argument = certificateFlag then
      if next.isEmpty then none
      else (scan? rest).map fun (positional, later?) => (positional, later?.or (some next))
    else match attachedCertificate? argument with
      | some path =>
        (scan? (next :: rest)).map fun (positional, later?) => (positional, later?.or (some path))
      | none => (scan? (next :: rest)).map fun (positional, later?) => (argument :: positional, later?)

def parse? (arguments : List String) : Option Arguments :=
  match scan? arguments with
  | some ([url], certificate?) => if url.isEmpty then none else some ⟨url, none, certificate?⟩
  | some ([url, output], certificate?) =>
    if url.isEmpty then none else some ⟨url, some output, certificate?⟩
  | _ => none

end Arguments
end MeteredDownload
