import MeteredDownload.Http.Client
import MeteredDownload.Log.Journal

/-!
# The world of a process

What a process can touch: its environment, the settings and the journal once they are there, the files,
the console, the clocks and the terminals.  A `Program` is an action on it that may fail with a value; what
it did before it failed stays done.
-/
set_option autoImplicit false
namespace MeteredDownload

open Numeric Files Log Report

/-- The clocks of a process: a stopwatch, along which delays pass, and the wall clock.  `useWall` says which
of them is read. -/
structure Timepieces where
  watch : Stopwatch
  wall : Stopwatch
  useWall : Bool
  deriving DecidableEq, Repr

instance : Clock Timepieces where
  now t :=
    if t.useWall then
      let (time, wall) := Clock.now t.wall
      (time, { t with wall })
    else
      let (time, watch) := Clock.now t.watch
      (time, { t with watch })
  wait delay t := { t with watch := Clock.wait delay t.watch }

structure World where
  environment : Environment
  settings : SettingsCell
  journal? : Option Journal
  tree : FileTree
  console : Console
  timestamp : String
  times : Timepieces
  /-- Which blocks of memory the machine gives, by their sizes. -/
  allocates : Nat → Bool
  /-- The terminals by number; number zero is the error output of the process. -/
  terminals : List Terminal
  /-- The snapshots that listeners were told of, with the seats of the listeners. -/
  heard : Array (Nat × Snapshot)
  closes : Nat
  requests : Array Http.Request
  shared? : Option Http.Downloader

namespace World

def fresh (environment : Environment) (tree : FileTree) : World where
  environment
  settings := .empty
  journal? := none
  tree
  console := .empty
  timestamp := ""
  times := ⟨⟨0, 0⟩, ⟨0, 0⟩, true⟩
  allocates := fun _ => true
  terminals := [.fresh .healthy]
  heard := #[]
  closes := 0
  requests := #[]
  shared? := none

end World

abbrev Program := ExceptT Value (StateM World)

namespace Program

variable {α : Type}

def fail (failure : Failure) : Program α := throw (.error failure)

def ofExcept : Except Value α → Program α
  | .ok a => pure a
  | .error reason => throw reason

def settings : Program Settings := do
  modify fun w => { w with settings := w.settings.load w.environment }
  let w ← get
  return w.settings.current w.environment

def updateSettings (change : Settings → Settings) : Program Unit :=
  modify fun w => { w with settings := w.settings.modify w.environment change }

def journal : Program Journal := do
  match (← get).journal? with
  | some j => return j
  | none =>
    let s ← settings
    let (tree, opened) := Journal.ofSettings s.logging (← get).tree
    modify fun w => { w with tree }
    match opened with
    | .error failure => fail failure
    | .ok j =>
      modify fun w => { w with journal? := some j }
      return j

/-- Keeps a record.  That fails if it has to show what no text stands for, or fields that cannot be written; the
message is made whether or not the record is kept. -/
def note (r : Record) : Program Unit := do
  let j ← journal
  if !r.givesText "message" then fail .withoutText
  if j.admits r then
    match r.unshown? with
    | some failure => fail failure
    | none =>
      modify fun w => { w with console := w.console.add w.timestamp r,
                               tree := j.writeFiles w.timestamp r w.tree }

def setLevel (level : Level) : Program Unit := do
  let j ← journal
  modify fun w => { w with journal? := some { j with level } }

def setLogFile (path : String) : Program Unit := do
  let j ← journal
  let (tree, j, failure?) := j.redirect path (← get).tree
  modify fun w => { w with tree, journal? := some j }
  match failure? with
  | some failure => fail failure
  | none => return

def writeError (chunk : String) : Program Unit :=
  modify fun w => { w with terminals := w.terminals.modify 0 (·.add chunk .shown) }

def wallTime : Program Binary64 := do
  let w ← get
  let (time, wall) := Clock.now w.times.wall
  set { w with times := { w.times with wall } }
  return time

end Program
end MeteredDownload
