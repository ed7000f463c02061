import MeteredDownload.Body
import MeteredDownload.ByteBuffer
import MeteredDownload.Display
import MeteredDownload.Report.Snapshot
import MeteredDownload.SpeedWindow

/-!
# Transfers

A transfer reads a body to its end, block by block, and keeps a status line up to date.  The line is drawn
anew whenever a block arrives a tick or more after the last drawing, and once more at the end.  Reads that
were interrupted are tried again; every other failure ends the transfer with the failure as it is.
-/
set_option autoImplicit false
namespace MeteredDownload

open Numeric Report Log

structure Listener where
  seat : Nat
  objection : Nat → Option Value

structure TransferOptions where
  chunkSize : Binary64
  speedSamples : Binary64
  tickInterval : Binary64
  listener? : Option Listener
  /-- Does the machine give a block of so many bytes? -/
  allocates : Nat → Bool

inductive Closing where
  | absent
  | works
  | fails (reason : Value)

/-- What a transfer reads: the outcomes in order of all reads with blocks of one size; after the last, the
body is at its end. -/
structure Source where
  announced? : Option Binary64
  reads : Nat → List ReadStep
  closing : Closing

def Source.ofBody (body : Body) (closing : Closing) : Source :=
  ⟨body.announced?, fun size => body.script size, closing⟩

structure TransferState where
  total : Nat
  pending : Nat
  samples : List Nat
  startTime : Binary64
  lastTick? : Option Binary64
  width? : Option Nat
  deriving DecidableEq, Repr

structure Transfer (κ : Type) where
  options : TransferOptions
  blockSize : Nat
  announced? : Option Binary64
  display : Display κ
  total : Nat
  window : SpeedWindow Nat
  startTime : Binary64
  lastTick? : Option Binary64
  reports : Array Snapshot

structure Moment where
  reads : Nat
  texts : Nat
  deriving DecidableEq, Repr

structure TransferResult (κ : Type) where
  outcome : Except Value Store
  display : Display κ
  visits : Array TransferState
  /-- Where it stood in the end, if it came to begin at all. -/
  final? : Option TransferState
  reports : Array Snapshot
  closes : Nat
  closings : List Moment

namespace Transfer

variable {κ : Type} [Clock κ]

def state (t : Transfer κ) : TransferState where
  total := t.total
  pending := t.window.pending
  samples := t.window.samples
  startTime := t.startTime
  lastTick? := t.lastTick?
  width? := t.display.renderer.width?

def now (t : Transfer κ) : Binary64 × Transfer κ :=
  let (time, clock) := Clock.now t.display.clock
  (time, { t with display := { t.display with clock } })

def wait (delays : List Binary64) (t : Transfer κ) : Transfer κ :=
  { t with display := { t.display with clock := delays.foldl (fun clock d => Clock.wait d clock)
                                                  t.display.clock } }

def onDisplay (change : Display κ → Display κ) (t : Transfer κ) : Transfer κ :=
  { t with display := change t.display }

/-- Prepares a transfer.  The display listens to its terminal from the first on, also where the options
turn out to be of no use. -/
def start (options : TransferOptions) (announced? : Option Binary64) (clock : κ) (terminal : Terminal) :
    Display κ × Except Failure (Transfer κ) :=
  let display := Display.start clock terminal
  match SpeedWindow.open? options.speedSamples with
  | .error failure => (display, .error failure)
  | .ok window =>
    let (startTime, clock) := Clock.now display.clock
    let display := { display with clock }
    match options.chunkSize.positiveInteger? with
    | none => (display, .error (.chunkSize options.chunkSize))
    | some blockSize =>
      (display, .ok { options, blockSize, announced?, display, total := 0, window, startTime,
                      lastTick? := none, reports := #[] })

def snapshotAt (time : Binary64) (t : Transfer κ) : Snapshot :=
  .describe (.ofNat t.total) t.announced? (t.window.speed t.announced?) ((time - t.startTime) / 1000)

def report (t : Transfer κ) : Transfer κ × Option Value :=
  let (time, t) := t.now
  let snapshot := t.snapshotAt time
  let t := t.onDisplay (·.draw snapshot.line)
  match t.options.listener? with
  | none => (t, none)
  | some listener => ({ t with reports := t.reports.push snapshot }, listener.objection t.reports.size)

def tick (t : Transfer κ) : Transfer κ × Option Value :=
  match report { t with window := t.window.commit } with
  | (t, some objection) => (t, some objection)
  | (t, none) =>
    let (time, t) := (t.onDisplay Display.rewind).now
    ({ t with lastTick? := some time }, none)

/-- Counts a block of `count` bytes that has arrived.  The tick clock starts with the first of them. -/
def receive (count : Nat) (t : Transfer κ) : Transfer κ × Option Value :=
  let t := { t with total := t.total + count, window := t.window.record count }
  let (time, t) := t.now
  let lastTick := t.lastTick?.getD time
  let t := { t with lastTick? := some lastTick }
  if t.options.tickInterval.le (time - lastTick) then t.tick else (t, none)

def complete (interrupts : Nat) (t : Transfer κ) : Transfer κ × Option Value :=
  match t.report with
  | (t, some objection) => (t, some objection)
  | (t, none) =>
    let record := Record.debug "Body read complete"
      [("totalDownloaded", .number (.ofNat t.total)), ("interrupts", .number (.ofNat interrupts))]
    (t.onDisplay fun d => d.finish.log record, none)

def logFailure (reason : Value) (t : Transfer κ) : Transfer κ :=
  t.onDisplay (·.log (.debug "Body read failed"
    [("totalDownloaded", .number (.ofNat t.total)), ("error", reason)]))

structure Reading (κ : Type) where
  transfer : Transfer κ
  outcome : Except Value Store
  visits : Array TransferState

def conclude (interrupts : Nat) (store : Store) (visits : Array TransferState) (t : Transfer κ) : Reading κ :=
  match t.complete interrupts with
  | (t, some objection) => ⟨t, .error objection, visits⟩
  | (t, none) => ⟨t, .ok store, visits⟩

def block : Nat := 0

/-- The memory in which a transfer begins: the block.  Of that, only the cells are kept that were ever filled. -/
def blank : Memory := ⟨#[.empty]⟩

/-- Reads the body to its end.  Every read fills the same block from its start, and its bytes are copied from there.
Between an interrupted read and the next there is nothing to see, so what the terminal does meanwhile is counted to
the wait for what comes after. -/
def readAll : List ReadStep → Nat → Memory → ByteBuffer → Array TransferState → Transfer κ → Reading κ
  | [], interrupts, memory, buffer, visits, t =>
    conclude interrupts (buffer.toStore memory) (visits.push t.state) (t.onDisplay Display.pause)
  | step :: rest, interrupts, memory, buffer, visits, t =>
    let visits := visits.push t.state
    let t := t.wait step.delays
    match step.outcome with
    | .error reason =>
      if reason.isInterrupted then readAll rest (interrupts + 1) memory buffer visits t
      else ⟨(t.onDisplay Display.pause).logFailure reason, .error reason, visits⟩
    | .ok bytes =>
      let t := t.onDisplay Display.pause
      if bytes.isEmpty then t.conclude interrupts (buffer.toStore memory) visits
      else
        match buffer.append block bytes.size (memory.put block 0 bytes) with
        | .error failure => ⟨t, .error failure, visits⟩
        | .ok (buffer, memory) =>
          match t.receive bytes.size with
          | (t, some objection) => ⟨t, .error objection, visits⟩
          | (t, none) => readAll rest interrupts memory buffer visits t

def allocate (t : Transfer κ) : Except Failure (ByteBuffer × Memory) :=
  let chunkSize := t.options.chunkSize
  if (Binary64.ofNat Binary64.maxExactInteger).lt chunkSize then .error (.blockLength chunkSize)
  else if !t.options.allocates t.blockSize then .error .memory
  else ByteBuffer.forLength? (t.announced?.getD chunkSize) blank

/-- Closes the source.  A failure to close is noted and changes nothing. -/
def closeSource (closing : Closing) (t : Transfer κ) : Transfer κ × Nat :=
  match closing with
  | .absent => (t, 0)
  | .works => (t, 1)
  | .fails reason => (t.onDisplay (·.log (.debug "Closing body failed" [("error", reason)])), 1)

/-- Reads the source to its end.  However that goes, the display and the source are closed after it. -/
def download (source : Source) (t : Transfer κ) : TransferResult κ :=
  let reading : Reading κ := match t.allocate with
    | .error failure => ⟨t, .error failure, #[]⟩
    | .ok (buffer, memory) => t.readAll (source.reads t.blockSize) 0 memory buffer #[]
  let shut := reading.transfer.onDisplay Display.close
  let moment : Moment := ⟨reading.visits.size, shut.display.terminal.written.size⟩
  let (t, closes) := closeSource source.closing shut
  { outcome := reading.outcome, display := t.display, visits := reading.visits, final? := some t.state,
    reports := t.reports, closes, closings := List.replicate closes moment }

/-- Prepares a transfer and makes it.  A source is closed only by a transfer that came to begin. -/
def run (options : TransferOptions) (source : Source) (clock : κ) (terminal : Terminal) :
    TransferResult κ :=
  match start options source.announced? clock terminal with
  | (display, .error failure) =>
    { outcome := .error failure, display, visits := #[], final? := none, reports := #[], closes := 0,
      closings := [] }
  | (_, .ok t) => t.download source

end Transfer
end MeteredDownload
