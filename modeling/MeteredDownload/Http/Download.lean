import MeteredDownload.Http.Fetch

/-!
# Downloads by the settings

A downloader is made from the settings; the certificate, if there is one, is read then and not again.  The
process shares one downloader, which is made when it is first needed.
-/
set_option autoImplicit false
namespace MeteredDownload.Http

namespace Downloader

def ofSettings (s : DownloadSettings) : Program Downloader := do
  let trust ← Trust.load s.certificate?
  return ⟨⟨s.userAgent?.getD "undefined", trust⟩, .ofSettings s⟩

def create : Program Downloader := do ofSettings (← Program.settings).download

def shared : Program Downloader := do
  match (← get).shared? with
  | some d => return d
  | none =>
    let d ← create
    modify fun w => { w with shared? := some d }
    return d

def get (transport : Transport) (d : Downloader) (choices : Choices) (url : String) : Program Store :=
  MeteredDownload.Downloader.download (transport.fetch d.client) d.defaults choices url

end Downloader

def download (transport : Transport) (choices : Choices) (url : String) : Program Store := do
  let d ← Downloader.shared
  d.get transport choices url

end MeteredDownload.Http
