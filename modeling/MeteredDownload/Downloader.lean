import MeteredDownload.World

/-!
# Downloads

A download fetches a URL and transfers the body into memory, with the status line on a terminal.  Whoever
makes a downloader and whoever asks for a download may both choose how; the latter has precedence.
-/
set_option autoImplicit false
namespace MeteredDownload

open Numeric Report Log

abbrev Fetcher := String → Program Source

namespace Downloader

def result (choices : Choices) (source : Source) (w : World) : TransferResult Timepieces :=
  let terminal := w.terminals.getD choices.terminal (.fresh .silent)
  let times := { w.times with useWall := choices.useWall }
  Transfer.run (choices.options w.allocates) source times terminal

def transfer (choices : Choices) (source : Source) : Program Store := do
  let w ← get
  let result := result choices source w
  let heard := match choices.listener? with
    | none => #[]
    | some listener => result.reports.map (listener.seat, ·)
  set { w with times := result.display.clock,
               terminals := w.terminals.set choices.terminal result.display.terminal,
               heard := w.heard ++ heard,
               closes := w.closes + result.closes }
  result.display.records.forM Program.note
  Program.ofExcept result.outcome

/-- Downloads a URL.  A note is made of the beginning and of the end, whichever it is. -/
def download (fetch : Fetcher) (defaults choices : Choices) (url : String) : Program Store := do
  let startTime ← Program.wallTime
  Program.note (.info "Starting download" [("url", .text url)])
  tryCatch
    (do
      let source ← fetch url
      let store ← transfer (choices.withDefaults defaults) source
      let endTime ← Program.wallTime
      Program.note (.info "Download completed"
        [("url", .text url), ("size", .number (.ofNat store.cells.size)),
          ("duration", .number (endTime - startTime))])
      return store)
    (fun reason => do
      Program.note (.error "Download failed" [("url", .text url), ("error", reason)])
      throw reason)

end Downloader
end MeteredDownload
