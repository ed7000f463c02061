import MeteredDownload.Proofs.Acquisition

/-!
# Notes that cannot fail

A note fails if its record brings a message or a time for which there is no text, or fields that cannot be written.
No record that a transfer takes
is of that kind (`Transfer.plain_run`).  So where the journal is open a plain note is a change to the console and
the log files (`World.noted`), and so are the notes of a transfer, one after the other.
-/
set_option autoImplicit false
namespace MeteredDownload

open Numeric Report Log

/-! ## The notes of a display -/

namespace Display

def Plain {κ : Type} (d : Display κ) : Prop := ∀ record ∈ d.records, record.IsPlain

section Plain
variable {κ : Type} {d e : Display κ}

theorem Plain.log (plain : Plain d) {record : Record} (fits : record.IsPlain) : Plain (d.log record) := by
  intro other member
  rcases Array.mem_push.mp member with before | rfl
  · exact plain other before
  · exact fits

theorem Plain.release (plain : Plain d) : Plain d.release := by
  unfold Display.release
  dsimp only
  split
  · split
    · exact plain
    · exact plain
  · exact plain

theorem Plain.announce (plain : Plain d) (failure : Failure) : Plain (d.announce failure) := by
  intro record member
  rcases Array.mem_append.mp member with before | note
  · exact plain record before
  · rw [(Array.mem_replicate.mp note).2]
    exact .ofValues rfl rfl

theorem Plain.complete (plain : Plain d) (failure? : Option Failure) : Plain (d.complete failure?) := by
  have noted : Plain (d.noted failure?) := plain
  cases failure? with
  | none =>
    rw [complete_none]
    exact noted.release
  | some failure =>
    rw [complete_some]
    exact (noted.log (.ofValues rfl rfl)).release

theorem Plain.act (plain : Plain d) (act : TerminalAct) : Plain (d.act act) := by
  cases act with
  | alarm failure => exact plain.announce failure
  | report i =>
    simp only [Display.act]
    split
    · exact plain
    · have fewer : Plain { d with due := d.due.eraseIdx i } := plain
      exact fewer.complete _

theorem Plain.perform (plain : Plain d) (acts : List TerminalAct) : Plain (d.perform acts) := by
  induction acts generalizing d with
  | nil => exact plain
  | cons act rest ih => exact ih (plain.act act)

theorem Plain.answered (plain : Plain d) (failure? : Option Failure) (completion : Completion) :
    Plain (d.answered failure? completion) := by
  cases completion with
  | never => exact plain
  | later => exact plain
  | atOnce =>
    have completed := plain.complete failure?
    cases failure? with
    | none => exact completed
    | some failure => exact completed.announce failure

variable [Clock κ]

theorem Plain.send (plain : Plain d) (text : String) : Plain (d.send text) := by
  by_cases stopped : d.HasStopped
  · rwa [send_of_stopped stopped]
  · have working := working_of_not_hasStopped stopped
    have passed : ∀ mark, Plain (d.passed text mark) := fun _ => plain
    cases fate : d.terminal.nextFate with
    | refused reason =>
      have under := (passed .refused).perform (d.terminal.behaviour.during d.terminal.written.size)
      rw [send_of_refused working fate]
      exact Plain.log under (.ofValues rfl rfl)
    | accepted failure? completion =>
      obtain ⟨mark, _, same⟩ := send_of_accepted working fate text
      rw [same]
      exact ((passed mark).answered failure? completion).perform _

theorem Plain.move (plain : Plain d) (move : Move) : Plain (d.move move) := by
  rcases move_cases d move with ⟨_, e, text, width?, rfl | rfl, same⟩ | ⟨_, same⟩ | ⟨deed, _, same⟩
  · rw [same]
    exact plain
  · rw [same]
    exact plain.send text
  · have shut : Plain { d with renderer := { d.renderer with closed := true } } := plain
    rw [same]
    exact shut.release
  · rw [same]
    exact plain.act deed

theorem Plainly.plain (plainly : d.Plainly e) (plain : Plain d) : Plain e := by
  induction plainly with
  | now => exact plain
  | clock _ _ ih => exact ih
  | log _ fits ih => exact ih.log fits
  | move _ move ih => exact ih.move move
  | @pause e _ ih =>
    have awaiting : Plain { e with terminal := { e.terminal with pauses := e.terminal.pauses + 1 } } := ih
    exact awaiting.perform _

end Plain
end Display

theorem Transfer.plain_run {κ : Type} [Clock κ] (options : TransferOptions) (source : Source) (clock : κ)
    (terminal : Terminal) : (run options source clock terminal).display.Plain :=
  (plainly_run options source clock terminal).plain nofun

/-! ## Notes in a world -/

namespace World

def noted (record : Record) (w : World) : World :=
  match w.journal? with
  | none => w
  | some j =>
    if j.admits record then
      { w with console := w.console.add w.timestamp record, tree := j.writeFiles w.timestamp record w.tree }
    else w

theorem noted_of_open {w : World} {j : Journal} (opened : w.journal? = some j) (record : Record) :
    w.noted record = if j.admits record then
      { w with console := w.console.add w.timestamp record, tree := j.writeFiles w.timestamp record w.tree }
    else w := by
  unfold noted
  split
  · next shut =>
    rw [opened] at shut
    cases shut
  · next other there =>
    rw [opened] at there
    cases there
    rfl

/-- The world after is the one before, but for what notes change. -/
def Noted (w after : World) : Prop := { after with console := w.console, tree := w.tree } = w

theorem Noted.refl (w : World) : w.Noted w := rfl

theorem Noted.trans {first second third : World} (before : first.Noted second) (after : second.Noted third) :
    first.Noted third := by
  have same := congrArg (fun w : World => { w with console := first.console, tree := first.tree }) after
  exact same.trans before

theorem noted_noted (record : Record) (w : World) : w.Noted (w.noted record) := by
  unfold noted
  split
  · rfl
  · split
    · rfl
    · rfl

theorem Noted.journal? {w after : World} (noted : w.Noted after) : after.journal? = w.journal? := by
  have same := congrArg World.journal? noted
  exact same

end World

namespace Program

theorem journal_of_open {w : World} {j : Journal} (opened : w.journal? = some j) : journal.on w = (.ok j, w) := by
  rw [Downloader.journal_on, opened]

theorem open_of_journal {w opened : World} {j : Journal} (opens : journal.on w = (.ok j, opened)) :
    opened.journal? = some j := by
  rw [Downloader.journal_on] at opens
  dsimp only at opens
  split at opens
  · next i there =>
    cases opens
    exact there
  · split at opens
    · cases opens
    · cases opens
      rfl

theorem note_on {w opened : World} {j : Journal} (opens : journal.on w = (.ok j, opened)) (record : Record)
    (plain : record.IsPlain) : (note record).on w = (.ok (), opened.noted record) := by
  rw [World.noted_of_open (open_of_journal opens)]
  unfold note
  rw [on_bind, opens]
  simp only [Record.givesText_of_lookup plain.message, plain.unshown?, Bool.not_true, Bool.false_eq_true, if_false]
  split
  · rfl
  · rfl

theorem notes_on {w : World} {j : Journal} (opened : w.journal? = some j) (records : Array Record)
    (plain : ∀ record ∈ records, record.IsPlain) :
    ∃ after, (records.forM note).on w = (.ok (), after) ∧ w.Noted after := by
  -- By induction on the list: a note leaves the journal open for those behind it.
  have all : ∀ (records : List Record) (w : World), w.journal? = some j → (∀ record ∈ records, record.IsPlain) →
      ∃ after, Program.on w (records.foldlM (fun _ record => note record) ()) = (.ok (), after) ∧
        w.Noted after := by
    intro records
    induction records with
    | nil => exact fun w _ _ => ⟨w, rfl, .refl w⟩
    | cons record rest ih =>
      intro w opened plain
      have first := note_on (journal_of_open opened) record (plain record List.mem_cons_self)
      have noted := World.noted_noted record w
      obtain ⟨after, notes, later⟩ := ih (w.noted record) (noted.journal?.trans opened)
        fun other member => plain other (List.mem_cons_of_mem _ member)
      refine ⟨after, ?_, noted.trans later⟩
      rw [List.foldlM_cons, on_bind, first]
      exact notes
  rw [Array.forM, ← Array.foldlM_toList]
  exact all records.toList w opened fun record member => plain record (Array.mem_toList_iff.mp member)

end Program
end MeteredDownload
