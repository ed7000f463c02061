import MeteredDownload.Certificate.Pem
import MeteredDownload.Certificate.Structure
import MeteredDownload.Text.Utf8
import MeteredDownload.World

/-!
# The roots to trust

The certificate in a file, if the file can be read and holds one, is trusted beside the usual roots.
Otherwise the usual roots are trusted alone; that never fails, and only a note is made of it.
-/
set_option autoImplicit false
namespace MeteredDownload

open Log

/-- What is wrong with the bytes of a file as a certificate: it stands there between lines with its label or, where
none can be found so, as it is at the front of the file. -/
def Certificate.check (bytes : List UInt8) : Except CertificateFault Unit :=
  let armoured : Except CertificateFault Unit := do
    if !isTrustedCertificate (← armouredData bytes) then .error .badStructure
  if beginsWithCertificate bytes then .ok () else armoured

namespace Trust

def usual : Trust := ⟨none⟩

def withCertificate (pem : String) : Trust := ⟨some [.bundled, .certificate pem]⟩

def readCertificate (path : String) (t : Files.FileTree) : Except Failure String := do
  let pem := Text.ofBytes (← t.readFile path)
  match Certificate.check pem.toUTF8.toList with
  | .error fault => throw (.certificate fault)
  | .ok () => return pem

def load (path? : Option String) : Program Trust := do
  match path? with
  | none | some "" => return usual
  | some path =>
    match readCertificate path (← get).tree with
    | .error failure =>
      Program.note (.debug "Ignoring custom certificate" [("certPath", .text path), ("error", failure)])
      return usual
    | .ok pem =>
      Program.note (.debug "Loaded custom certificate" [("certPath", .text path)])
      return withCertificate pem

end Trust
end MeteredDownload
