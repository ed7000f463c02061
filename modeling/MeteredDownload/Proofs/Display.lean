import MeteredDownload.Display

/-!
# What dealings with a terminal leave alone

Whatever a terminal does, and whatever becomes of a text that it is passed, some of a display stays as it is
(`Display.Kept`): what is remembered of the line, whether it was closed, and how the terminal behaves.  Only
passing a text takes time, and only as much as the terminal takes for it.
-/
set_option autoImplicit false
namespace MeteredDownload

open Numeric Text Log

namespace Display

section Frame
variable {κ : Type}

structure Kept (d e : Display κ) : Prop where
  clock : e.clock = d.clock
  width : e.renderer.width? = d.renderer.width?
  closed : e.renderer.closed = d.renderer.closed
  behaviour : e.terminal.behaviour = d.terminal.behaviour

theorem Kept.refl (d : Display κ) : Kept d d := ⟨rfl, rfl, rfl, rfl⟩

theorem Kept.trans {d e f : Display κ} (first : Kept d e) (second : Kept e f) : Kept d f :=
  ⟨second.clock.trans first.clock, second.width.trans first.width, second.closed.trans first.closed,
    second.behaviour.trans first.behaviour⟩

theorem Kept.since {d e f : Display κ} (kept : Kept e f) (before : Kept d e) : Kept d f :=
  before.trans kept

theorem log_kept (record : Record) (d : Display κ) : Kept d (d.log record) := ⟨rfl, rfl, rfl, rfl⟩

theorem release_kept (d : Display κ) : Kept d d.release := by
  unfold release
  dsimp only
  split
  · split <;> exact ⟨rfl, rfl, rfl, rfl⟩
  · exact .refl d

theorem announce_kept (failure : Failure) (d : Display κ) : Kept d (d.announce failure) :=
  ⟨rfl, rfl, rfl, rfl⟩

theorem complete_kept (failure? : Option Failure) (d : Display κ) : Kept d (d.complete failure?) := by
  cases failure? with
  | none => exact (release_kept _).since ⟨rfl, rfl, rfl, rfl⟩
  | some failure => exact (release_kept _).since ⟨rfl, rfl, rfl, rfl⟩

theorem report_kept (failure? : Option Failure) (d : Display κ) : Kept d (d.report failure?) := by
  cases failure? with
  | none => exact complete_kept none d
  | some failure => exact (complete_kept failure d).trans (announce_kept failure _)

theorem act_kept (d : Display κ) (act : TerminalAct) : Kept d (d.act act) := by
  cases act with
  | alarm failure => exact announce_kept failure d
  | report i =>
    unfold Display.act
    dsimp only
    split
    · exact .refl d
    · exact (complete_kept _ _).since ⟨rfl, rfl, rfl, rfl⟩

theorem perform_kept (acts : List TerminalAct) (d : Display κ) : Kept d (d.perform acts) := by
  induction acts generalizing d with
  | nil => exact .refl d
  | cons act rest ih => exact (act_kept d act).trans (ih (d.act act))

theorem pause_kept (d : Display κ) : Kept d d.pause :=
  (perform_kept _ _).since ⟨rfl, rfl, rfl, rfl⟩

theorem closed_close (d : Display κ) : d.close.renderer.closed = true :=
  (release_kept _).closed

end Frame

def HasStopped {κ : Type} (d : Display κ) : Prop := d.renderer.broken = true ∨ d.renderer.closed = true

section Passing
variable {κ : Type} [Clock κ]

theorem send_of_stopped {d : Display κ} (stopped : d.HasStopped) (chunk : String) : d.send chunk = d := by
  rw [send, if_pos]
  simpa [HasStopped] using stopped

def clockAfter (d : Display κ) : κ :=
  if d.renderer.broken || d.renderer.closed then d.clock
  else Clock.wait d.terminal.behaviour.delay d.clock

theorem send_kept (chunk : String) (d : Display κ) :
    Kept { d with clock := d.clockAfter } (d.send chunk) := by
  unfold clockAfter send
  split
  · exact .refl d
  · dsimp only
    split
    · next reason _ =>
      have kept := perform_kept (d.terminal.behaviour.during d.terminal.written.size)
        { d with clock := Clock.wait d.terminal.behaviour.delay d.clock,
                 terminal := d.terminal.add chunk .refused,
                 renderer := { d.renderer with outstanding := d.renderer.outstanding + 1 } }
      exact ⟨kept.clock, kept.width, kept.closed, kept.behaviour⟩
    · split
      · exact (perform_kept _ _).since ⟨rfl, rfl, rfl, rfl⟩
      · exact (perform_kept _ _).since ((report_kept _ _).since ⟨rfl, rfl, rfl, rfl⟩)
      · exact (perform_kept _ _).since ⟨rfl, rfl, rfl, rfl⟩

end Passing

end Display
end MeteredDownload
