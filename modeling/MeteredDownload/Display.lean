import MeteredDownload.Clock
import MeteredDownload.Terminal
import MeteredDownload.Log.Record
import MeteredDownload.Text.Align

/-!
# The status line on a terminal

A display draws one line in place: each redraw blanks the line before and returns to the first column.
Failures of the terminal never reach the caller.  After one nothing more is written; a display that is
closed stops listening once the terminal has reported on all that it has accepted.
-/
set_option autoImplicit false
namespace MeteredDownload

open Numeric Text Log

structure Renderer where
  width? : Option Nat
  outstanding : Int
  listening : Bool
  attached : Bool
  closed : Bool
  broken : Bool
  deriving DecidableEq, Repr

def Renderer.fresh (attachable : Bool) : Renderer := ⟨none, 0, attachable, attachable, false, false⟩

/-- A renderer at work, with its terminal, the clock that runs along, the reports still due on texts that
were accepted, and the records of what went wrong. -/
structure Display (κ : Type) where
  clock : κ
  terminal : Terminal
  renderer : Renderer
  due : List (Option Failure)
  records : Array Record

namespace Display

variable {κ : Type} [Clock κ]

def start (clock : κ) (terminal : Terminal) : Display κ :=
  let attachable := terminal.behaviour.attachable
  { clock, terminal := if attachable then terminal.attach else terminal,
    renderer := .fresh attachable, due := [], records := #[] }

def log (record : Record) (d : Display κ) : Display κ :=
  { d with records := d.records.push record }

/-- Stops listening, once it is closed and no report is due; after a failure it never stops. -/
def release (d : Display κ) : Display κ :=
  let r := d.renderer
  if r.listening && r.closed && !r.broken && decide (r.outstanding ≤ 0) then
    if d.terminal.behaviour.detachable then
      { d with terminal := d.terminal.detach, renderer := { r with listening := false, attached := false } }
    else { d with renderer := { r with listening := false } }
  else d

/-- The terminal tells all who listen of a failure.  Each of them makes a note of it. -/
def announce (failure : Failure) (d : Display κ) : Display κ :=
  let r := d.renderer
  let notes := Array.replicate d.terminal.listeners
    (Record.debug "Status stream failed" [("error", .error failure)])
  { d with terminal := d.terminal.hear (.alarm failure d.terminal.listeners),
           renderer := { r with broken := r.broken || r.attached }, records := d.records ++ notes }

def complete (failure? : Option Failure) (d : Display κ) : Display κ :=
  let d := { d with terminal := d.terminal.hear (.report failure?),
                    renderer := { d.renderer with outstanding := d.renderer.outstanding - 1 } }
  match failure? with
  | none => d.release
  | some failure =>
    let d := { d with renderer := { d.renderer with broken := true } }
    release (d.log (.debug "Status write failed" [("error", .error failure)]))

/-- The terminal reports on one text that it has accepted; a failure it announces right after. -/
def report (failure? : Option Failure) (d : Display κ) : Display κ :=
  match failure? with
  | none => d.complete none
  | some failure => (d.complete failure).announce failure

def act (d : Display κ) : TerminalAct → Display κ
  | .alarm failure => d.announce failure
  | .report i =>
    match d.due[i]? with
    | none => d
    | some failure? => complete failure? { d with due := d.due.eraseIdx i }

def perform (acts : List TerminalAct) (d : Display κ) : Display κ := acts.foldl act d

def pause (d : Display κ) : Display κ :=
  let t := d.terminal
  perform (t.behaviour.meanwhile t.pauses) { d with terminal := { t with pauses := t.pauses + 1 } }

/-- Passes a text to the terminal, unless the display is closed or the terminal has failed.  The text counts as
outstanding from before the call; one that is refused counts no more after it. -/
def send (chunk : String) (d : Display κ) : Display κ :=
  if d.renderer.broken || d.renderer.closed then d
  else
    let acts := d.terminal.behaviour.during d.terminal.written.size
    let fate := d.terminal.nextFate
    let d := { d with clock := Clock.wait d.terminal.behaviour.delay d.clock,
                      renderer := { d.renderer with outstanding := d.renderer.outstanding + 1 } }
    match fate with
    | .refused reason =>
      let d := perform acts { d with terminal := d.terminal.add chunk .refused }
      let d := { d with renderer := { d.renderer with outstanding := d.renderer.outstanding - 1 } }
      d.log (.debug "Status write failed" [("error", reason)])
    | .accepted failure? completion =>
      let mark := if failure?.isSome then Mark.failed else Mark.shown
      let d := { d with terminal := d.terminal.add chunk mark }
      match completion with
      | .never => d.perform acts
      | .atOnce => (d.report failure?).perform acts
      | .later => perform acts { d with due := d.due ++ [failure?] }

def erase (d : Display κ) : Display κ :=
  match d.renderer.width? with
  | none => d
  | some width => d.send (spaces width ++ "\r")

def put (line : String) (d : Display κ) : Display κ :=
  let d := d.send line
  { d with renderer := { d.renderer with width? := some line.length } }

def draw (line : String) (d : Display κ) : Display κ := d.erase.put line

def rewind (d : Display κ) : Display κ := d.send "\r"

def close (d : Display κ) : Display κ :=
  release { d with renderer := { d.renderer with closed := true } }

def finish (d : Display κ) : Display κ := (d.send "\n").close

end Display
end MeteredDownload
