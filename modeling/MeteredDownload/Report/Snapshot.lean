import MeteredDownload.Report.Size
import MeteredDownload.Report.Duration

/-!
# Snapshots of a transfer

A snapshot is what one report on a running transfer says.  `Snapshot.describe` derives it from the
counts, and `Snapshot.line` is the status line drawn for it.
-/
set_option autoImplicit false
namespace MeteredDownload.Report

open Numeric Text

structure Snapshot where
  bytesDownloaded : Binary64
  totalBytes? : Option Binary64
  percent? : Option Binary64
  bytesPerSecond : Binary64
  elapsedSeconds : Binary64
  secondsLeft? : Option Binary64
  deriving DecidableEq, Repr

namespace Snapshot

/-- The share of `total` that has arrived.  Nothing is missing from an empty body. -/
def percentOf (downloaded total : Binary64) : Binary64 :=
  if Binary64.lt 0 total then downloaded / total * 100 else 100

/-- The whole seconds that the rest of the body takes at the given speed; zero where the speed is. -/
def secondsFor (downloaded total speed : Binary64) : Binary64 :=
  let remaining := Binary64.max (total - downloaded) 0
  if speed.isZero then 0 else (remaining / speed).floor

/-- The snapshot of a transfer.  Share and time left are known only where the length is; a body longer
than announced has a share above 100 and no time left. -/
def describe (downloaded : Binary64) (total? : Option Binary64) (speed elapsed : Binary64) :
    Snapshot where
  bytesDownloaded := downloaded
  totalBytes? := total?
  percent? := total?.map (percentOf downloaded)
  bytesPerSecond := speed
  elapsedSeconds := elapsed.floor
  secondsLeft? := total?.map (secondsFor downloaded · speed)

def percentText (percent : Binary64) : String := alignRight 3 (percent.round.fixedText 0)

/-- The status line.  A body of unknown length shows what has arrived, any other also what is left. -/
def line (s : Snapshot) : String :=
  let downloaded := sizeText s.bytesDownloaded
  let speed := rateText s.bytesPerSecond
  let elapsed := durationText s.elapsedSeconds
  match s.totalBytes? with
  | none => "Total: " ++ downloaded ++ " Speed: " ++ speed ++ " Elapsed: " ++ elapsed
  | some total =>
    let percent := percentText (s.percent?.getD 0)
    let left := durationText (s.secondsLeft?.getD 0)
    downloaded ++ " / " ++ sizeText total ++ " (" ++ percent ++ "%) " ++ speed ++ " in " ++ elapsed
      ++ " ETA: " ++ left

end Snapshot
end MeteredDownload.Report
