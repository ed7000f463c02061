import MeteredDownload.Settings
import MeteredDownload.Transfer

/-!
# Choices

Whoever makes a downloader and whoever asks it for a download may both choose how the download is made.
What neither of them chooses is as usual.
-/
set_option autoImplicit false
namespace MeteredDownload

open Numeric

/-- The choices of one who makes a download.  A number can be left open, or be chosen to be the usual. -/
structure Choices where
  chunkSize? : Option (Option Binary64) := none
  speedSamples? : Option (Option Binary64) := none
  tickInterval? : Option (Option Binary64) := none
  terminal? : Option Nat := none
  stopwatch? : Option Bool := none
  listener? : Option Listener := none

namespace Choices

def withDefaults (c defaults : Choices) : Choices where
  chunkSize? := c.chunkSize?.or defaults.chunkSize?
  speedSamples? := c.speedSamples?.or defaults.speedSamples?
  tickInterval? := c.tickInterval?.or defaults.tickInterval?
  terminal? := c.terminal?.or defaults.terminal?
  stopwatch? := c.stopwatch?.or defaults.stopwatch?
  listener? := c.listener?.or defaults.listener?

def options (allocates : Nat → Bool) (c : Choices) : TransferOptions where
  chunkSize := (c.chunkSize?.getD none).getD defaultChunkSize
  speedSamples := (c.speedSamples?.getD none).getD SpeedWindow.defaultCapacity
  tickInterval := (c.tickInterval?.getD none).getD defaultTickInterval
  listener? := c.listener?
  allocates

def terminal (c : Choices) : Nat := c.terminal?.getD 0

def useWall (c : Choices) : Bool := !c.stopwatch?.getD false

def ofSettings (s : DownloadSettings) : Choices where
  chunkSize? := some s.chunkSize?
  speedSamples? := some s.speedSamples?
  tickInterval? := some s.tickInterval?

end Choices
end MeteredDownload
