import MeteredDownload.Proofs.Agreement

/-!
# What a transfer writes on any terminal

A terminal may refuse texts, fail, or be closed early, so it may get only some of the chunks of a redraw, or none.  But
whatever it is given is the line of a snapshot of the transfer, or only makes room for one (`Display.Wrote`).
-/
set_option autoImplicit false
namespace MeteredDownload

open Numeric Report Text Log

/-- The text moves the cursor to the start of a line, and shows nothing but blanks. -/
def Text.MakesRoom (chunk : String) : Prop := chunk = "\n" ∨ ∃ n, chunk = spaces n ++ "\r"

namespace Display
variable {κ : Type}

def Wrote (earlier : List String) (snapshots : List Snapshot) (d : Display κ) : Prop :=
  ∃ chunks, d.terminal.texts = earlier ++ chunks ∧
    ∀ chunk ∈ chunks, MakesRoom chunk ∨ ∃ snapshot ∈ snapshots, chunk = snapshot.line

section Wrote
variable {d e : Display κ} {earlier : List String} {snapshots : List Snapshot}

theorem Wrote.more (wrote : d.Wrote earlier snapshots) (snapshot : Snapshot) :
    d.Wrote earlier (snapshots ++ [snapshot]) := by
  obtain ⟨chunks, texts, known⟩ := wrote
  refine ⟨chunks, texts, fun chunk member => (known chunk member).imp_right ?_⟩
  rintro ⟨s, drawn, same⟩
  exact ⟨s, List.mem_append_left _ drawn, same⟩

theorem Wrote.of_written (wrote : d.Wrote earlier snapshots) (same : e.terminal.written = d.terminal.written) :
    e.Wrote earlier snapshots := by
  unfold Wrote Terminal.texts at *
  rwa [same]

theorem written_complete (failure? : Option Failure) (d : Display κ) :
    (d.complete failure?).terminal.written = d.terminal.written := by
  cases failure? with
  | none =>
    rw [complete_none]
    exact ((rests_noted none d).trans (rests_release _)).written
  | some failure =>
    rw [complete_some]
    exact (((rests_noted failure d).trans (rests_log _ _)).trans (rests_release _)).written

theorem written_answered (failure? : Option Failure) (completion : Completion) (d : Display κ) :
    (d.answered failure? completion).terminal.written = d.terminal.written := by
  cases completion with
  | never => rfl
  | later => rfl
  | atOnce =>
    cases failure? with
    | none => exact written_complete none d
    | some failure => exact (rests_announce failure _).written.trans (written_complete failure d)

variable [Clock κ]

/-- A text is passed on, or nothing is: it never comes in parts, nor with another one. -/
theorem texts_send (chunk : String) (d : Display κ) :
    (d.send chunk).terminal.texts = d.terminal.texts ∨ (d.send chunk).terminal.texts = d.terminal.texts ++ [chunk] := by
  by_cases stopped : d.HasStopped
  · rw [send_of_stopped stopped]
    exact .inl rfl
  have working := working_of_not_hasStopped stopped
  have added : ∀ mark, (d.passed chunk mark).terminal.texts = d.terminal.texts ++ [chunk] := by
    intro mark
    simp [Terminal.texts, passed, Terminal.add]
  right
  cases fate : d.terminal.nextFate with
  | refused reason =>
    rw [send_of_refused working fate, ← added .refused]
    exact congrArg (fun written => written.toList.map Written.chunk) (written_perform ..)
  | accepted failure? completion =>
    obtain ⟨mark, -, same⟩ := send_of_accepted working fate chunk
    rw [same, ← added mark]
    exact congrArg (fun written => written.toList.map Written.chunk)
      ((written_perform ..).trans (written_answered ..))

theorem Wrote.send (wrote : d.Wrote earlier snapshots) {chunk : String}
    (known : MakesRoom chunk ∨ ∃ snapshot ∈ snapshots, chunk = snapshot.line) :
    (d.send chunk).Wrote earlier snapshots := by
  obtain ⟨chunks, texts, before⟩ := wrote
  rcases d.texts_send chunk with same | added
  · exact ⟨chunks, same.trans texts, before⟩
  · refine ⟨chunks ++ [chunk], ?_, List.forall_mem_append.mpr ⟨before, ?_⟩⟩
    · rw [added, texts, List.append_assoc]
    · intro c member
      rwa [List.mem_singleton.mp member]

theorem Wrote.draw (wrote : d.Wrote earlier snapshots) (snapshot : Snapshot) :
    (d.draw snapshot.line).Wrote earlier (snapshots ++ [snapshot]) := by
  have erased : d.erase.Wrote earlier snapshots := by
    unfold Display.erase
    split
    · exact wrote
    · next width _ => exact wrote.send (.inl (.inr ⟨width, rfl⟩))
  have drawn := (erased.more snapshot).send (.inr ⟨snapshot, List.mem_append_right _ List.mem_cons_self, rfl⟩)
  exact drawn

theorem Wrote.rewind (wrote : d.Wrote earlier snapshots) : d.rewind.Wrote earlier snapshots :=
  wrote.send (.inl (.inr ⟨0, rfl⟩))

theorem Wrote.finish (wrote : d.Wrote earlier snapshots) : d.finish.Wrote earlier snapshots := by
  have ended := wrote.send (.inl (.inl rfl))
  exact ended.of_written (rests_release _).written

end Wrote
end Display

namespace Transfer
variable {κ : Type} [Clock κ]

section Wrote
variable {t : Transfer κ} {earlier : List String} {snapshots : List Snapshot}

theorem wrote_report (wrote : t.display.Wrote earlier snapshots) :
    t.report.1.display.Wrote earlier (snapshots ++ [t.view]) := by
  have now : t.now.2.display.Wrote earlier snapshots := wrote
  rw [report_eq_told, display_told]
  exact now.draw t.view

theorem wrote_tick (wrote : t.display.Wrote earlier snapshots) :
    t.tick.1.display.Wrote earlier (snapshots ++ [t.committed.view]) := by
  have committed : t.committed.display.Wrote earlier snapshots := wrote
  have reported := wrote_report committed
  rcases t.tick_cases with ⟨objection, opposed⟩ | redrawn
  · rw [opposed]
    exact reported
  · have rewound := reported.rewind
    rw [redrawn]
    exact rewound

theorem wrote_conclude (wrote : t.display.Wrote earlier snapshots) (interrupts : Nat) (store : Store)
    (visits : Array TransferState) :
    (t.conclude interrupts store visits).transfer.display.Wrote earlier (snapshots ++ [t.view]) := by
  have reported := wrote_report wrote
  rw [transfer_conclude, complete]
  cases answer : t.report with
  | mk u objection? =>
    rw [answer] at reported
    cases objection? with
    | some objection => exact reported
    | none => exact reported.finish

theorem records_wrote (earlier : List String) :
    Records (κ := κ) (fun snapshots t => t.display.Wrote earlier snapshots)
      (fun snapshots reading => reading.transfer.display.Wrote earlier snapshots) where
  waits _ wrote := wrote
  pauses wrote := wrote.of_written (Display.written_perform ..)
  counts _ wrote := wrote
  ticks wrote _ := wrote_tick wrote
  opposed _ wrote _ := wrote_tick wrote
  concludes interrupts store visits wrote := wrote_conclude wrote interrupts store visits
  fails _ _ wrote := wrote
  refuses _ wrote := wrote

end Wrote

theorem wrote_run {options : TransferOptions} {blockSize capacity : Nat}
    (sized : options.chunkSize.positiveInteger? = some blockSize)
    (sampled : options.speedSamples.positiveInteger? = some capacity) (source : Source) (clock : κ)
    (terminal : Terminal) :
    let timeline := (opened options source.announced? clock terminal blockSize capacity).timeline source
    (run options source clock terminal).display.Wrote terminal.texts
      (timeline.stages.map (Stage.snapshot capacity source.announced? timeline.start)) := by
  intro timeline
  have room := (Binary64.eq_finite_of_positiveInteger? sampled).2
  let begun := opened options source.announced? clock terminal blockSize capacity
  have nothing : begun.display.Wrote terminal.texts [] := by
    refine ⟨[], ?_, fun _ member => absurd member List.not_mem_nil⟩
    show (Display.start clock terminal).terminal.texts = _
    rw [List.append_nil, Display.start]
    dsimp only
    split <;> rfl
  have wrote := (records_wrote terminal.texts).reading nothing room rfl (counts_opened ..) source
  rw [run_of_sound sized sampled]
  exact wrote.of_written (begun.written_download source).1

end Transfer
end MeteredDownload
