import MeteredDownload.Numeric.Decimal
import MeteredDownload.Text.Align

/-!
# Durations

A number of seconds is cut down to whole seconds, never below zero, and split into days, hours, minutes
and seconds.  The text begins with the first of days, hours and minutes that is above zero.
-/
set_option autoImplicit false
namespace MeteredDownload.Report

open Numeric Text

structure Duration where
  days : Binary64
  hours : Binary64
  minutes : Binary64
  seconds : Binary64
  deriving DecidableEq, Repr

namespace Duration

def ofSeconds (total : Binary64) : Duration :=
  let seconds := Binary64.max 0 total.floor
  let minutes := (seconds / 60).floor
  let hours := (minutes / 60).floor
  ⟨(hours / 24).floor, hours % 24, minutes % 60, seconds % 60⟩

def component (width : Nat) (amount : Binary64) (letter : String) : String :=
  alignRight width amount.text ++ letter

/-- The text of a duration, without the components of value zero at its front; seconds always show. -/
def text (d : Duration) : String :=
  let seconds := component 2 d.seconds "s"
  let minutes := component 2 d.minutes "m " ++ seconds
  let hours := component 2 d.hours "h " ++ minutes
  if Binary64.lt 0 d.days then component 3 d.days "d " ++ hours
  else if Binary64.lt 0 d.hours then hours
  else if Binary64.lt 0 d.minutes then minutes
  else seconds

end Duration

def durationText (seconds : Binary64) : String := (Duration.ofSeconds seconds).text

end MeteredDownload.Report
