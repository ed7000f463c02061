import MeteredDownload.Text.Composition
import MeteredDownload.Url.Domain.Table

/-!
# Folding domains

A domain can be written in many ways: in upper case, with wide or raised letters, with marks apart from
their letters.  `fold?` replaces each character by what it stands for, and `normal?` puts together what is
left, so that all ways to write a domain come to one.
-/
set_option autoImplicit false
namespace MeteredDownload.Url.Domain

open Text

def foldChar? (c : Char) : Option (List Char) :=
  match folding.find? c.toNat with
  | none => none
  | some run =>
    let place := c.toNat - run.first
    match run.mark, run.parts with
    | 'v', _ => some [c]
    | 'i', _ => some []
    | 'a', _ => some [if place % 2 = 0 then Char.ofNat (c.toNat + 1) else c]
    | 's', [start] => some [Char.ofNat (start + place)]
    | 't', parts => some (parts.map Char.ofNat)
    | _, _ => none

def fold? (s : List Char) : Option (List Char) := (s.mapM foldChar?).map List.flatten

def isAscii (s : List Char) : Bool := s.all (·.toNat < 128)

/-- The one form of all ways to write a domain.  In ASCII they differ in case only. -/
def normal? (s : List Char) : Option (List Char) :=
  if isAscii s then some (s.map Char.toLower) else (fold? s).map Composition.compose

end MeteredDownload.Url.Domain
