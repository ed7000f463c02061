import MeteredDownload.Proofs.Accounting
import MeteredDownload.Proofs.Independence
import MeteredDownload.Proofs.Screen
import MeteredDownload.Proofs.Stages

/-!
# Redrawing a status line

On a terminal that accepts every text (`TerminalBehaviour.Accepts`) a display passes on every chunk of its redraws
and nothing else, so a transfer leaves the chunks of the lines that it drew (`Transfer.Draws`), and a screen that
prints them shows one line at a time.  That holds for every way in which a transfer can end.
-/
set_option autoImplicit false
namespace MeteredDownload

open Numeric Text Report Log

/-- The terminal accepts every text, tells of no failed one, and raises no alarm that could be heard. -/
structure TerminalBehaviour.Accepts (b : TerminalBehaviour) : Prop where
  takes : ∀ i, ∃ completion, b.fate i = .accepted none completion
  quiet : b.attachable = true → ∀ i failure, .alarm failure ∉ b.during i ∧ .alarm failure ∉ b.meanwhile i

def Terminal.texts (t : Terminal) : List String := t.written.toList.map Written.chunk

namespace Display
variable {κ : Type}

structure Works (d : Display κ) : Prop where
  accepts : d.terminal.behaviour.Accepts
  unbroken : d.renderer.broken = false
  healthy : ∀ failure? ∈ d.due, failure? = none
  attached : d.renderer.attached = true → d.terminal.behaviour.attachable = true

section Works
variable {d : Display κ}

theorem Works.release (works : d.Works) : d.release.Works := by
  unfold Display.release
  dsimp only
  split
  · split
    · exact ⟨works.accepts, works.unbroken, works.healthy, nofun⟩
    · exact ⟨works.accepts, works.unbroken, works.healthy, works.attached⟩
  · exact works

theorem Works.complete (works : d.Works) : (d.complete none).Works := by
  have noted : (d.noted none).Works :=
    ⟨works.accepts, by simp [Display.noted, works.unbroken], works.healthy, works.attached⟩
  rw [complete_none]
  exact noted.release

theorem Works.act (works : d.Works) {act : TerminalAct}
    (quiet : d.terminal.behaviour.attachable = true → ∀ failure, act ≠ .alarm failure) : (d.act act).Works := by
  cases act with
  | alarm failure =>
    -- A display that can be told of an alarm is on a terminal that raises none.
    have untold : d.renderer.attached = false := by
      cases attached : d.renderer.attached with
      | false => rfl
      | true => exact absurd rfl (quiet (works.attached attached) failure)
    exact ⟨works.accepts, by simp [Display.act, announce, works.unbroken, untold], works.healthy, works.attached⟩
  | report i =>
    unfold Display.act
    dsimp only
    split
    · exact works
    · next failure? due =>
      have fine := works.healthy failure? (List.mem_of_getElem? due)
      have fewer : Works { d with due := d.due.eraseIdx i } :=
        ⟨works.accepts, works.unbroken, fun failure? member => works.healthy failure? (List.mem_of_mem_eraseIdx member),
          works.attached⟩
      rw [fine]
      exact fewer.complete

structure Answered (d e : Display κ) : Prop where
  works : e.Works
  written : e.terminal.written = d.terminal.written
  behaviour : e.terminal.behaviour = d.terminal.behaviour

theorem Works.answered (works : d.Works) (completion : Completion) : Answered d (d.answered none completion) := by
  cases completion with
  | never => exact ⟨works, rfl, rfl⟩
  | atOnce =>
    refine ⟨works.complete, ?_, (complete_kept none d).behaviour⟩
    show (d.complete none).terminal.written = _
    rw [complete_none, (rests_release _).written, (rests_noted none d).written]
  | later =>
    refine ⟨⟨works.accepts, works.unbroken, ?_, works.attached⟩, rfl, rfl⟩
    intro failure? member
    rcases List.mem_append.mp member with earlier | last
    · exact works.healthy failure? earlier
    · exact List.mem_singleton.mp last

theorem written_perform (acts : List TerminalAct) (d : Display κ) :
    (d.perform acts).terminal.written = d.terminal.written := by
  induction acts generalizing d with
  | nil => rfl
  | cons act rest ih => exact (ih (d.act act)).trans (rests_act d act).written

theorem Works.perform (works : d.Works) {acts : List TerminalAct}
    (quiet : d.terminal.behaviour.attachable = true → ∀ failure, .alarm failure ∉ acts) : (d.perform acts).Works := by
  induction acts generalizing d with
  | nil => exact works
  | cons act rest ih =>
    have first : (d.act act).Works := works.act fun attachable failure same =>
      quiet attachable failure (same ▸ List.mem_cons_self)
    refine ih first ?_
    rw [(act_kept d act).behaviour]
    exact fun attachable failure member => quiet attachable failure (List.mem_cons_of_mem act member)

end Works

structure Shown (texts : List String) (width? : Option Nat) (d : Display κ) : Prop where
  works : d.Works
  going : d.renderer.closed = false
  width : d.renderer.width? = width?
  texts : d.terminal.texts = texts

section Shown
variable {d : Display κ} {texts : List String} {width? : Option Nat}

theorem Shown.clocked (shown : d.Shown texts width?) (clock : κ) : Shown texts width? { d with clock } :=
  ⟨⟨shown.works.accepts, shown.works.unbroken, shown.works.healthy, shown.works.attached⟩, shown.going, shown.width,
    shown.texts⟩

theorem Shown.log (shown : d.Shown texts width?) (record : Record) : (d.log record).Shown texts width? :=
  ⟨⟨shown.works.accepts, shown.works.unbroken, shown.works.healthy, shown.works.attached⟩, shown.going, shown.width,
    shown.texts⟩

theorem shown_start (clock : κ) {terminal : Terminal} (accepts : terminal.behaviour.Accepts) :
    (Display.start clock terminal).Shown terminal.texts none := by
  unfold Display.start
  dsimp only
  cases attachable : terminal.behaviour.attachable with
  | false => exact ⟨⟨accepts, rfl, nofun, nofun⟩, rfl, rfl, rfl⟩
  | true => exact ⟨⟨accepts, rfl, nofun, fun _ => attachable⟩, rfl, rfl, rfl⟩

theorem Shown.pause (shown : d.Shown texts width?) : d.pause.Shown texts width? := by
  have kept := pause_kept d
  have awaited : Works { d with terminal := { d.terminal with pauses := d.terminal.pauses + 1 } } :=
    ⟨shown.works.accepts, shown.works.unbroken, shown.works.healthy, shown.works.attached⟩
  refine ⟨awaited.perform fun attachable failure => ?_, kept.closed.trans shown.going, kept.width.trans shown.width, ?_⟩
  · exact (shown.works.accepts.quiet attachable _ failure).2
  · rw [← shown.texts, Terminal.texts, Display.pause, written_perform]
    rfl

variable [Clock κ]

theorem Shown.send (shown : d.Shown texts width?) (chunk : String) :
    (d.send chunk).Shown (texts ++ [chunk]) width? := by
  have works := shown.works
  obtain ⟨completion, fate⟩ := works.accepts.takes d.terminal.written.size
  obtain ⟨mark, _, same⟩ := send_of_accepted ⟨works.unbroken, shown.going⟩ fate chunk
  have kept := send_kept chunk d
  have taken : (d.passed chunk mark).Works := ⟨works.accepts, works.unbroken, works.healthy, works.attached⟩
  have after := taken.answered completion
  refine ⟨?_, kept.closed.trans shown.going, kept.width.trans shown.width, ?_⟩
  · rw [same]
    refine after.works.perform ?_
    rw [after.behaviour]
    exact fun attachable failure => (works.accepts.quiet attachable _ failure).1
  · rw [same, Terminal.texts, written_perform, after.written, ← shown.texts]
    simp [passed, Terminal.add, Terminal.texts]

theorem Shown.draw {last? : Option String} (shown : d.Shown texts (last?.map String.length)) (line : String) :
    (d.draw line).Shown (texts ++ drawing last? line) (some line.length) := by
  have put : ∀ {e : Display κ} {texts : List String} {width? : Option Nat}, e.Shown texts width? →
      (e.put line).Shown (texts ++ [line]) (some line.length) := by
    intro e texts width? shown
    have sent := shown.send line
    exact ⟨⟨sent.works.accepts, sent.works.unbroken, sent.works.healthy, sent.works.attached⟩, sent.going, rfl,
      sent.texts⟩
  have width := shown.width
  cases last? with
  | none =>
    have same : d.erase = d := by
      rw [erase, width]
      rfl
    rw [Display.draw, same]
    exact put shown
  | some last =>
    have same : d.erase = d.send (spaces last.length ++ "\r") := by
      rw [erase, width]
      rfl
    have drawn := put (shown.send (spaces last.length ++ "\r"))
    rw [Display.draw, same]
    simpa [drawing] using drawn

end Shown
end Display

namespace Transfer
variable {κ : Type} [Clock κ]

/-- The transfer has drawn these snapshots, and the cursor is back in the first column. -/
structure Draws (options : TransferOptions) (earlier : List String) (snapshots : List Snapshot) (t : Transfer κ) :
    Prop where
  chosen : t.options = options
  shown : t.display.Shown (earlier ++ redraws none (snapshots.map Snapshot.line))
    ((snapshots.map Snapshot.line).getLast?.map String.length)
  heard : ∀ listener ∈ options.listener?, t.reports.toList = snapshots

/-- The transfer has drawn one more snapshot, and the cursor is still behind its line. -/
structure Ahead (options : TransferOptions) (earlier : List String) (snapshots : List Snapshot) (last : Snapshot)
    (t : Transfer κ) : Prop where
  chosen : t.options = options
  shown : t.display.Shown (earlier ++ (redraws none (snapshots.map Snapshot.line) ++
    drawing (snapshots.map Snapshot.line).getLast? last.line)) (some last.line.length)
  heard : ∀ listener ∈ options.listener?, t.reports.toList = snapshots ++ [last]

section Draws
variable {options : TransferOptions} {earlier : List String} {snapshots : List Snapshot} {last : Snapshot}
  {t : Transfer κ}

omit [Clock κ] in
theorem Draws.onDisplay (draws : t.Draws options earlier snapshots) {change : Display κ → Display κ}
    (keeps : ∀ {texts width?}, t.display.Shown texts width? → (change t.display).Shown texts width?) :
    (t.onDisplay change).Draws options earlier snapshots :=
  ⟨draws.chosen, keeps draws.shown, draws.heard⟩

theorem Draws.now (draws : t.Draws options earlier snapshots) : t.now.2.Draws options earlier snapshots :=
  ⟨draws.chosen, draws.shown.clocked _, draws.heard⟩

theorem Draws.wait (draws : t.Draws options earlier snapshots) (delays : List Binary64) :
    (t.wait delays).Draws options earlier snapshots :=
  ⟨draws.chosen, draws.shown.clocked _, draws.heard⟩

theorem Draws.report (draws : t.Draws options earlier snapshots) :
    t.report.1.Ahead options earlier snapshots t.view := by
  have drawn := draws.now.shown.draw t.view.line
  have heard := draws.heard
  have told : ∀ u : Transfer κ, u.options = options → u.reports = t.reports →
      (u.told t.view).1.options = options ∧
        ∀ listener ∈ options.listener?, (u.told t.view).1.reports.toList = snapshots ++ [t.view] := by
    intro u same reports
    unfold Transfer.told
    rw [same]
    cases seated : options.listener? with
    | none => exact ⟨same, nofun⟩
    | some listener => exact ⟨rfl, fun _ _ => by simp [reports, heard listener seated]⟩
  obtain ⟨same, reports⟩ := told (t.now.2.onDisplay (·.draw t.view.line)) draws.chosen rfl
  refine ⟨same, ?_, reports⟩
  rw [report_eq_told, display_told, ← List.append_assoc]
  exact drawn

theorem Ahead.rewind (ahead : t.Ahead options earlier snapshots last) :
    (t.onDisplay Display.rewind).Draws options earlier (snapshots ++ [last]) := by
  have sent := ahead.shown.send "\r"
  refine ⟨ahead.chosen, ?_, ahead.heard⟩
  rw [List.map_append, List.map_singleton, redraws_concat]
  simpa [Transfer.onDisplay, Display.rewind] using sent

theorem Draws.tick (draws : t.Draws options earlier snapshots) :
    (t.tick.2 = none → t.tick.1.Draws options earlier (snapshots ++ [t.committed.view])) ∧
      (∀ objection, t.tick.2 = some objection → t.tick.1.Ahead options earlier snapshots t.committed.view) := by
  have committed : t.committed.Draws options earlier snapshots := ⟨draws.chosen, draws.shown, draws.heard⟩
  have reported := committed.report
  rcases t.tick_cases with ⟨objection, opposed⟩ | redrawn
  · rw [opposed]
    exact ⟨nofun, fun _ _ => reported⟩
  · have rewound := reported.rewind.now
    rw [redrawn]
    exact ⟨fun _ => ⟨rewound.chosen, rewound.shown, rewound.heard⟩, nofun⟩

theorem Draws.counted (draws : t.Draws options earlier snapshots) (count : Nat) :
    (t.counted count).Draws options earlier snapshots :=
  ⟨draws.chosen, draws.now.shown, draws.heard⟩

end Draws

/-! ## The end of the reading -/

/-- What is left when a reading has ended: the snapshots that were drawn, and their chunks on the terminal. -/
structure Reading.Leaves (options : TransferOptions) (earlier : List String) (snapshots : List Snapshot)
    (reading : Reading κ) : Prop where
  ended : ∃ chunks, reading.transfer.display.terminal.texts = earlier ++ chunks ∧
    Ended reading.outcome (snapshots.map Snapshot.line) chunks
  heard : ∀ listener ∈ options.listener?, reading.transfer.reports.toList = snapshots

section Leaves
variable {options : TransferOptions} {earlier : List String} {snapshots : List Snapshot} {last : Snapshot}
  {t : Transfer κ}

omit [Clock κ] in
theorem Ahead.leaves (ahead : t.Ahead options earlier snapshots last) (objection : Value)
    (visits : Array TransferState) :
    Reading.Leaves options earlier (snapshots ++ [last]) ⟨t, .error objection, visits⟩ := by
  have drawn := Drawn.ahead (snapshots.map Snapshot.line) last.line
  refine ⟨⟨_, ahead.shown.texts, .rejected objection ?_⟩, ahead.heard⟩
  simpa using drawn

omit [Clock κ] in
theorem Draws.leaves (draws : t.Draws options earlier snapshots) (reason : Value) (visits : Array TransferState) :
    Reading.Leaves options earlier snapshots ⟨t, .error reason, visits⟩ :=
  ⟨⟨_, draws.shown.texts, .rejected reason (.rewound _)⟩, draws.heard⟩

theorem Draws.conclude (draws : t.Draws options earlier snapshots) (interrupts : Nat) (store : Store)
    (visits : Array TransferState) :
    (t.conclude interrupts store visits).Leaves options earlier (snapshots ++ [t.view]) := by
  have reported := draws.report
  unfold Transfer.conclude complete
  cases answer : t.report with
  | mk u objection? =>
    rw [answer] at reported
    cases objection? with
    | some objection => exact reported.leaves objection visits
    | none =>
      have sent := reported.shown.send "\n"
      have texts : (u.display.finish).terminal.texts = earlier ++ (redraws none (snapshots.map Snapshot.line) ++
          drawing (snapshots.map Snapshot.line).getLast? t.view.line ++ ["\n"]) := by
        have closed := Display.rests_release
          { u.display.send "\n" with renderer := { (u.display.send "\n").renderer with closed := true } }
        rw [Display.finish, Display.close, Terminal.texts, closed.written]
        simpa [Terminal.texts] using sent.texts
      refine ⟨⟨_, texts, ?_⟩, reported.heard⟩
      have ended := Ended.resolved (ε := Value) store (snapshots.map Snapshot.line) t.view.line
      simpa using ended

theorem records_draws (options : TransferOptions) (earlier : List String) :
    Records (κ := κ) (fun snapshots t => t.Draws options earlier snapshots) (Reading.Leaves options earlier) where
  waits delays draws := draws.wait delays
  pauses draws := draws.onDisplay Display.Shown.pause
  counts count draws := draws.counted count
  ticks draws unopposed := draws.tick.1 unopposed
  opposed visits draws answer := (draws.tick.2 _ answer).leaves _ visits
  concludes interrupts store visits draws := draws.conclude interrupts store visits
  fails reason visits draws := (draws.onDisplay fun shown => shown.log _).leaves reason visits
  refuses reason draws := draws.leaves reason #[]

def CountsLines (ticks : Nat) (snapshots : List Snapshot) : Prop :=
  ticks ≤ snapshots.length ∧ snapshots.length ≤ ticks + 1

theorem Draws.reading (draws : t.Draws options earlier []) {capacity : Nat} (room : 0 < capacity)
    (holds : t.window.capacity = capacity) (fresh : t.state.Counts capacity []) (source : Source) :
    ∃ snapshots, (t.reading source).Leaves options earlier snapshots ∧
      CountsLines ((t.arrivals ((source.reads t.blockSize).take (t.reading source).visits.size)).countP
        Arrival.completes) snapshots := by
  refine ⟨_, (records_draws options earlier).reading draws room holds fresh source, ?_⟩
  have lines := (t.timeline source).length_stages
  have most : (t.timeline source).last?.toList.length ≤ 1 := by cases (t.timeline source).last? <;> simp
  rw [arrived_timeline] at lines
  simp only [CountsLines, List.length_map]
  omega

theorem draws_opened (options : TransferOptions) (announced? : Option Binary64) (clock : κ) {terminal : Terminal}
    (blockSize capacity : Nat) (accepts : terminal.behaviour.Accepts) :
    (opened options announced? clock terminal blockSize capacity).Draws options terminal.texts [] := by
  have shown := (Display.shown_start clock accepts).clocked (Clock.now clock).2
  refine ⟨rfl, ?_, fun _ _ => rfl⟩
  simpa [redraws, opened] using shown

end Leaves

theorem written_download (source : Source) (t : Transfer κ) :
    (t.download source).display.terminal.written = (t.reading source).transfer.display.terminal.written ∧
      (t.download source).reports = (t.reading source).transfer.reports := by
  have kept : ∀ u : Transfer κ,
      (closeSource source.closing (u.onDisplay Display.close)).1.display.terminal.written = u.display.terminal.written ∧
      (closeSource source.closing (u.onDisplay Display.close)).1.reports = u.reports := by
    intro u
    have closed := (Display.rests_release
      { u.display with renderer := { u.display.renderer with closed := true } }).written
    cases source.closing with
    | absent => exact ⟨closed, rfl⟩
    | works => exact ⟨closed, rfl⟩
    | fails reason => exact ⟨closed, rfl⟩
  exact kept (t.reading source).transfer

/-- On a terminal that accepts all it is given, a transfer shows one line at a time in the row in which it began,
whatever lines it draws and however it ends. -/
theorem run_leaves_no_residue (options : TransferOptions) (source : Source) (clock : κ) (terminal : Terminal)
    (blockSize capacity : Nat) (sized : options.chunkSize.positiveInteger? = some blockSize)
    (sampled : options.speedSamples.positiveInteger? = some capacity) (accepts : terminal.behaviour.Accepts)
    (screen : Screen) (left : screen.column = 0) (blank : screen.Shows screen.row "") :
    let begun := opened options source.announced? clock terminal blockSize capacity
    let result := run options source clock terminal
    let arrived := begun.arrivals ((source.reads blockSize).take result.visits.size)
    ∃ (snapshots : List Snapshot) (chunks : List String),
      result.display.terminal.texts = terminal.texts ++ chunks ∧
      (∀ listener ∈ options.listener?, result.reports.toList = snapshots) ∧
      CountsLines (arrived.countP Arrival.completes) snapshots ∧
      ((∀ snapshot ∈ snapshots, snapshot.line.length ≤ screen.width) →
        screen.ShowsRun (snapshots.map Snapshot.line) result.outcome chunks) := by
  intro begun result arrived
  have same : result = begun.download source := run_of_sound sized sampled source clock terminal
  obtain ⟨written, reports⟩ := begun.written_download source
  have draws : begun.Draws options terminal.texts [] :=
    draws_opened options source.announced? clock blockSize capacity accepts
  have room := (Binary64.eq_finite_of_positiveInteger? sampled).2
  have fresh : begun.state.Counts capacity [] := counts_of rfl List.take_nil.symm rfl (iff_of_true rfl rfl)
  obtain ⟨snapshots, leaves, counts⟩ := draws.reading room rfl fresh source
  obtain ⟨chunks, texts, ended⟩ := leaves.ended
  refine ⟨snapshots, chunks, ?_, ?_, ?_, ?_⟩
  · rw [same, ← texts, Terminal.texts, Terminal.texts, written]
  · rw [same, reports]
    exact leaves.heard
  · have visits : result.visits = (begun.reading source).visits := by rw [same]; rfl
    rw [← visits] at counts
    exact counts
  · intro wide
    have outcome : result.outcome = (begun.reading source).outcome := by rw [same]; rfl
    rw [outcome]
    refine Screen.showsRun_of_ended (Screen.showing_of_blank blank left) ended ?_
    intro line member
    obtain ⟨snapshot, drawn, rfl⟩ := List.mem_map.mp member
    exact ⟨printable_line snapshot, wide snapshot drawn⟩

/-- The second line is shorter than the first, since less time is left, and the last is as long again. -/
theorem run_leaves_no_residue_of_shorter_line :
    let options : TransferOptions := ⟨64, 1, 0, some ⟨0, fun _ => none⟩, fun _ => true⟩
    let reads : List ReadStep := [⟨[], .ok ⟨#[1]⟩⟩, ⟨[], .ok ⟨Array.replicate 50 0⟩⟩, ⟨[], .ok ⟨#[2]⟩⟩]
    let source : Source := ⟨some 200, fun _ => reads, .works⟩
    let result := run options source () (.fresh .healthy)
    let screen : Screen := ⟨80, fun _ _ => ' ', 0, 0⟩
    result.reports.toList.map (·.line.length) = [48, 44, 48, 48] ∧
      screen.ShowsRun (result.reports.toList.map Snapshot.line) result.outcome result.display.terminal.texts := by
  intro options reads source result screen
  have accepts : TerminalBehaviour.healthy.Accepts := ⟨fun _ => ⟨.atOnce, rfl⟩, fun _ _ _ => ⟨nofun, nofun⟩⟩
  obtain ⟨snapshots, chunks, texts, heard, -, shows⟩ := run_leaves_no_residue options source () (.fresh .healthy)
    64 1 (by decide +kernel) (by decide +kernel) accepts screen rfl (fun _ => rfl)
  have lengths : result.reports.toList.map (·.line.length) = [48, 44, 48, 48] := by decide +kernel
  have wide : ∀ snapshot ∈ result.reports.toList, snapshot.line.length ≤ screen.width := by decide +kernel
  have written : chunks = result.display.terminal.texts := texts.symm
  have reported : snapshots = result.reports.toList := (heard _ rfl).symm
  rw [reported] at shows
  rw [← written]
  exact ⟨lengths, shows wide⟩

end Transfer
end MeteredDownload
