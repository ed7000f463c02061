import MeteredDownload.Proofs.Display
import MeteredDownload.Proofs.Transfer

/-!
# What a terminal cannot change

Two displays are alike if the same clock runs along with both, both remember the same width, and neither
terminal takes any time of that clock (`Display.Alike`).  Two transfers are alike if nothing but such displays
tells them apart (`Transfer.Alike`).  Every step of a transfer keeps this up and comes to the same result on
either side, so nothing of a transfer depends on what its terminal does.
-/
set_option autoImplicit false
namespace MeteredDownload

open Numeric Report Log

inductive Clock.Reached {κ : Type} [Clock κ] (origin : κ) : κ → Prop where
  | origin : Reached origin origin
  | now {clock : κ} : Reached origin clock → Reached origin (Clock.now clock).2
  | wait {clock : κ} (delay : Binary64) : Reached origin clock → Reached origin (Clock.wait delay clock)

/-- The terminal takes no time that the clock can tell. -/
def TerminalBehaviour.IsTimeless {κ : Type} [Clock κ] (origin : κ) (behaviour : TerminalBehaviour) : Prop :=
  ∀ clock, Clock.Reached origin clock → Clock.wait behaviour.delay clock = clock

namespace Display
variable {κ : Type} [Clock κ] {origin : κ} {d e d' e' : Display κ}

structure Alike (origin : κ) (d e : Display κ) : Prop where
  clock : e.clock = d.clock
  reached : Clock.Reached origin d.clock
  width : e.renderer.width? = d.renderer.width?
  left : d.terminal.behaviour.IsTimeless origin
  right : e.terminal.behaviour.IsTimeless origin

theorem Alike.of_kept (alike : Alike origin d e) (first : Kept d d') (second : Kept e e') :
    Alike origin d' e' := by
  refine ⟨?_, ?_, ?_, ?_, ?_⟩
  · rw [first.clock, second.clock, alike.clock]
  · rw [first.clock]
    exact alike.reached
  · rw [first.width, second.width, alike.width]
  · rw [first.behaviour]
    exact alike.left
  · rw [second.behaviour]
    exact alike.right

theorem send_kept_of_isTimeless (timeless : d.terminal.behaviour.IsTimeless origin)
    (reached : Clock.Reached origin d.clock) (chunk : String) : Kept d (d.send chunk) := by
  have still : d.clockAfter = d.clock := by
    rw [clockAfter, timeless d.clock reached, ite_self]
  have kept := send_kept chunk d
  rw [still] at kept
  exact kept

theorem Alike.send (alike : Alike origin d e) (first second : String) :
    Alike origin (d.send first) (e.send second) := by
  have reached : Clock.Reached origin e.clock := by
    rw [alike.clock]
    exact alike.reached
  exact alike.of_kept (send_kept_of_isTimeless alike.left alike.reached first)
    (send_kept_of_isTimeless alike.right reached second)

theorem Alike.erase (alike : Alike origin d e) : Alike origin d.erase e.erase := by
  unfold Display.erase
  rw [alike.width]
  split
  · exact alike
  · exact alike.send _ _

theorem Alike.put (alike : Alike origin d e) (line : String) : Alike origin (d.put line) (e.put line) := by
  have sent := alike.send line line
  exact ⟨sent.clock, sent.reached, rfl, sent.left, sent.right⟩

theorem Alike.draw (alike : Alike origin d e) (line : String) : Alike origin (d.draw line) (e.draw line) :=
  alike.erase.put line

theorem Alike.rewind (alike : Alike origin d e) : Alike origin d.rewind e.rewind := alike.send "\r" "\r"

theorem Alike.close (alike : Alike origin d e) : Alike origin d.close e.close := by
  have shut : Alike origin { d with renderer := { d.renderer with closed := true } }
      { e with renderer := { e.renderer with closed := true } } :=
    ⟨alike.clock, alike.reached, alike.width, alike.left, alike.right⟩
  exact shut.of_kept (release_kept _) (release_kept _)

theorem Alike.finish (alike : Alike origin d e) : Alike origin d.finish e.finish :=
  (alike.send "\n" "\n").close

theorem Alike.pause (alike : Alike origin d e) : Alike origin d.pause e.pause :=
  alike.of_kept (pause_kept d) (pause_kept e)

theorem Alike.log (alike : Alike origin d e) (record : Record) : Alike origin (d.log record) (e.log record) :=
  alike.of_kept (log_kept record d) (log_kept record e)

theorem alike_start {first second : Terminal} (left : first.behaviour.IsTimeless origin)
    (right : second.behaviour.IsTimeless origin) :
    Alike origin (Display.start origin first) (Display.start origin second) := by
  refine ⟨rfl, .origin, ?_, ?_, ?_⟩
  · simp [Display.start, Renderer.fresh]
  · simp only [Display.start]
    split <;> exact left
  · simp only [Display.start]
    split <;> exact right

end Display

namespace Transfer

theorem snapshotAt_withDisplay {κ : Type} (time : Binary64) (t : Transfer κ) (e : Display κ) :
    snapshotAt time { t with display := e } = t.snapshotAt time :=
  rfl

variable {κ : Type} [Clock κ] {origin : κ} {t u : Transfer κ}

def Alike (origin : κ) (t u : Transfer κ) : Prop :=
  ∃ e, Display.Alike origin t.display e ∧ u = { t with display := e }

def Agree {α : Type} (origin : κ) (p q : Transfer κ × α) : Prop := Alike origin p.1 q.1 ∧ q.2 = p.2

theorem Agree.parts {α : Type} {p q : Transfer κ × α} (agree : Agree origin p q) :
    ∃ t u answer, p = (t, answer) ∧ q = (u, answer) ∧ Alike origin t u := by
  obtain ⟨alike, same⟩ := agree
  exact ⟨p.1, q.1, p.2, rfl, Prod.ext rfl same, alike⟩

theorem Alike.state (alike : Alike origin t u) : u.state = t.state := by
  obtain ⟨e, shown, rfl⟩ := alike
  simp only [Transfer.state, shown.width]

theorem Alike.onDisplay (alike : Alike origin t u) {change : Display κ → Display κ}
    (keeps : ∀ {d e : Display κ}, Display.Alike origin d e → Display.Alike origin (change d) (change e)) :
    Alike origin (t.onDisplay change) (u.onDisplay change) := by
  obtain ⟨e, shown, rfl⟩ := alike
  exact ⟨change e, keeps shown, rfl⟩

theorem Alike.now (alike : Alike origin t u) : Alike origin t.now.2 u.now.2 ∧ u.now.1 = t.now.1 := by
  obtain ⟨e, shown, rfl⟩ := alike
  have same := shown.clock
  refine ⟨⟨{ e with clock := (Clock.now e.clock).2 }, ⟨?_, .now shown.reached, shown.width, shown.left,
    shown.right⟩, rfl⟩, ?_⟩
  · simp only [Transfer.now, same]
  · simp only [Transfer.now, same]

theorem reached_foldl (delays : List Binary64) {clock : κ} (reached : Clock.Reached origin clock) :
    Clock.Reached origin (delays.foldl (fun clock delay => Clock.wait delay clock) clock) := by
  induction delays generalizing clock with
  | nil => exact reached
  | cons delay rest ih => exact ih (reached.wait delay)

theorem Alike.wait (alike : Alike origin t u) (delays : List Binary64) :
    Alike origin (t.wait delays) (u.wait delays) := by
  obtain ⟨e, shown, rfl⟩ := alike
  refine ⟨{ e with clock := delays.foldl (fun clock delay => Clock.wait delay clock) e.clock },
    ⟨?_, reached_foldl delays shown.reached, shown.width, shown.left, shown.right⟩, rfl⟩
  simp only [Transfer.wait, shown.clock]

/-! ## The steps of a transfer -/

def told (snapshot : Snapshot) (t : Transfer κ) : Transfer κ × Option Value :=
  match t.options.listener? with
  | none => (t, none)
  | some listener => ({ t with reports := t.reports.push snapshot }, listener.objection t.reports.size)

omit [Clock κ] in
theorem display_told (snapshot : Snapshot) (t : Transfer κ) : (t.told snapshot).1.display = t.display := by
  unfold told
  split <;> rfl

theorem report_eq_told (t : Transfer κ) :
    t.report = (t.now.2.onDisplay (·.draw (t.now.2.snapshotAt t.now.1).line)).told
      (t.now.2.snapshotAt t.now.1) :=
  rfl

theorem Alike.told (alike : Alike origin t u) (snapshot : Snapshot) :
    Agree origin (t.told snapshot) (u.told snapshot) := by
  obtain ⟨e, shown, rfl⟩ := alike
  unfold Transfer.told
  cases seated : t.options.listener? with
  | none => exact ⟨⟨e, shown, rfl⟩, rfl⟩
  | some listener => exact ⟨⟨e, shown, rfl⟩, rfl⟩

theorem Alike.report (alike : Alike origin t u) : Agree origin t.report u.report := by
  obtain ⟨later, time⟩ := alike.now
  have same : u.now.2.snapshotAt t.now.1 = t.now.2.snapshotAt t.now.1 := by
    obtain ⟨e, _, same⟩ := later
    rw [same, snapshotAt_withDisplay]
  rw [report_eq_told, report_eq_told, time, same]
  exact (later.onDisplay fun shown => shown.draw _).told _

theorem Alike.tick (alike : Alike origin t u) : Agree origin t.tick u.tick := by
  have counted : Alike origin { t with window := t.window.commit } { u with window := u.window.commit } := by
    obtain ⟨e, shown, rfl⟩ := alike
    exact ⟨e, shown, rfl⟩
  obtain ⟨first, second, answer, here, there, reported⟩ := counted.report.parts
  unfold Transfer.tick
  rw [here, there]
  cases answer with
  | some objection => exact ⟨reported, rfl⟩
  | none =>
    obtain ⟨⟨e, shown, same⟩, time⟩ := (reported.onDisplay Display.Alike.rewind).now
    refine ⟨⟨e, shown, ?_⟩, rfl⟩
    dsimp only
    rw [time, same]

theorem Alike.receive (alike : Alike origin t u) (count : Nat) :
    Agree origin (t.receive count) (u.receive count) := by
  have counted : Alike origin { t with total := t.total + count, window := t.window.record count }
      { u with total := u.total + count, window := u.window.record count } := by
    obtain ⟨e, shown, rfl⟩ := alike
    exact ⟨e, shown, rfl⟩
  obtain ⟨⟨e, shown, same⟩, time⟩ := counted.now
  unfold Transfer.receive
  dsimp only
  rw [time, same]
  split
  · exact Alike.tick ⟨e, shown, rfl⟩
  · exact ⟨⟨e, shown, rfl⟩, rfl⟩

theorem Alike.complete (alike : Alike origin t u) (interrupts : Nat) :
    Agree origin (t.complete interrupts) (u.complete interrupts) := by
  obtain ⟨first, second, answer, here, there, e, shown, rfl⟩ := alike.report.parts
  unfold Transfer.complete
  rw [here, there]
  cases answer with
  | some objection => exact ⟨⟨e, shown, rfl⟩, rfl⟩
  | none => exact ⟨⟨_, shown.finish.log _, rfl⟩, rfl⟩

/-! ## Whole transfers -/

structure Reading.Alike (origin : κ) (r s : Reading κ) : Prop where
  transfer : Transfer.Alike origin r.transfer s.transfer
  outcome : s.outcome = r.outcome
  visits : s.visits = r.visits

theorem Alike.conclude (alike : Alike origin t u) (interrupts : Nat) (store : Store)
    (visits : Array TransferState) :
    Reading.Alike origin (t.conclude interrupts store visits) (u.conclude interrupts store visits) := by
  obtain ⟨first, second, answer, here, there, completed⟩ := (alike.complete interrupts).parts
  unfold Transfer.conclude
  rw [here, there]
  cases answer with
  | some objection => exact ⟨completed, rfl, rfl⟩
  | none => exact ⟨completed, rfl, rfl⟩

theorem Alike.readAll (alike : Alike origin t u) (steps : List ReadStep) (interrupts : Nat)
    (memory : Memory) (buffer : ByteBuffer) (visits : Array TransferState) :
    Reading.Alike origin (t.readAll steps interrupts memory buffer visits)
      (u.readAll steps interrupts memory buffer visits) := by
  -- The transfers differ in their displays alone, so they take the same branch at every read.
  induction steps generalizing interrupts memory buffer visits t u with
  | nil =>
    rw [Transfer.readAll, Transfer.readAll, alike.state]
    exact (alike.onDisplay Display.Alike.pause).conclude ..
  | cons step rest ih =>
    have waited := alike.wait step.delays
    have awaited := waited.onDisplay Display.Alike.pause
    unfold Transfer.readAll
    dsimp only
    rw [alike.state]
    cases step.outcome with
    | error reason =>
      dsimp only
      split
      · exact ih waited ..
      · obtain ⟨e, shown, same⟩ := awaited
        rw [same]
        exact ⟨⟨_, shown.log _, rfl⟩, rfl, rfl⟩
    | ok bytes =>
      dsimp only
      split
      · exact awaited.conclude ..
      · obtain ⟨first, second, answer, here, there, received⟩ := (awaited.receive bytes.size).parts
        rw [Transfer.append_put]
        dsimp only
        rw [here, there]
        cases answer with
        | some objection => exact ⟨received, rfl, rfl⟩
        | none => exact ih received ..

theorem Alike.closeSource (alike : Alike origin t u) (closing : Closing) :
    Agree origin (closeSource closing t) (closeSource closing u) := by
  cases closing with
  | absent => exact ⟨alike, rfl⟩
  | works => exact ⟨alike, rfl⟩
  | fails reason => exact ⟨alike.onDisplay fun shown => shown.log _, rfl⟩

end Transfer

structure TransferResult.Same {κ : Type} (r s : TransferResult κ) : Prop where
  outcome : s.outcome = r.outcome
  visits : s.visits = r.visits
  final : s.final? = r.final?
  reports : s.reports = r.reports
  closes : s.closes = r.closes

namespace Transfer
variable {κ : Type} [Clock κ] {origin : κ} {t u : Transfer κ}

theorem Alike.allocate (alike : Alike origin t u) : u.allocate = t.allocate := by
  obtain ⟨e, _, rfl⟩ := alike
  rfl

theorem Alike.reports (alike : Alike origin t u) : u.reports = t.reports := by
  obtain ⟨e, _, rfl⟩ := alike
  rfl

theorem Alike.download (alike : Alike origin t u) (source : Source) :
    (t.download source).Same (u.download source) := by
  have size : u.blockSize = t.blockSize := by
    obtain ⟨e, _, rfl⟩ := alike
    rfl
  cases made : t.allocate with
  | error failure =>
    have refused := alike.allocate.trans made
    obtain ⟨closed, closes⟩ := (alike.onDisplay Display.Alike.close).closeSource source.closing
    simp only [Transfer.download, made, refused]
    exact ⟨rfl, rfl, congrArg some closed.state, closed.reports, closes⟩
  | ok room =>
    have same := alike.allocate.trans made
    have read := alike.readAll (source.reads t.blockSize) 0 room.2 room.1 #[]
    obtain ⟨closed, closes⟩ := (read.transfer.onDisplay Display.Alike.close).closeSource source.closing
    simp only [Transfer.download, made, same, size]
    exact ⟨read.outcome, read.visits, congrArg some closed.state, closed.reports, closes⟩

/-- Whatever terminal shows a transfer, the transfer is the same, as long as the terminal takes no time. -/
theorem run_same_on_every_terminal (options : TransferOptions) (source : Source) (clock : κ)
    (first second : Terminal) (left : first.behaviour.IsTimeless clock)
    (right : second.behaviour.IsTimeless clock) :
    (run options source clock first).Same (run options source clock second) := by
  have begun : Display.Alike clock (Display.start clock first) (Display.start clock second) :=
    Display.alike_start left right
  unfold run start
  dsimp only
  cases (SpeedWindow.open? options.speedSamples : Except Failure (SpeedWindow Nat)) with
  | error failure => exact ⟨rfl, rfl, rfl, rfl, rfl⟩
  | ok window =>
    dsimp only
    cases options.chunkSize.positiveInteger? with
    | none => exact ⟨rfl, rfl, rfl, rfl, rfl⟩
    | some blockSize =>
      apply Alike.download
      refine ⟨{ Display.start clock second with clock := (Clock.now clock).2 }, ?_, rfl⟩
      exact ⟨rfl, .now .origin, begun.width, begun.left, begun.right⟩

/-- A healthy terminal shows both lines; one that fails during the wait for the first block shows none. -/
theorem run_same_on_healthy_and_failing :
    let failure : Failure := .raised .error "gone" none (.text "EPIPE")
    let healthy : TerminalBehaviour := { TerminalBehaviour.healthy with delay := .negativeZero }
    let failing : TerminalBehaviour :=
      { fate := fun _ => .refused failure, delay := .negativeZero, attachable := true, detachable := false,
        meanwhile := fun i => if i = 1 then [.alarm failure] else [] }
    let listener : Listener := ⟨0, fun i => if i = 1 then some (.text "enough") else none⟩
    let options : TransferOptions := ⟨2, 5, 300, some listener, fun _ => true⟩
    let source : Source := ⟨none, fun _ => [⟨[5], .ok ⟨#[1, 2]⟩⟩, ⟨[700], .ok ⟨#[3]⟩⟩], .works⟩
    let clock : Stopwatch := ⟨0, 100⟩
    let shown := run options source clock (.fresh healthy)
    let hidden := run options source clock (.fresh failing)
    shown.Same hidden ∧ shown.display.terminal.written.size = 4 ∧ hidden.display.terminal.written.size = 0 := by
  have timeless : ∀ c : Stopwatch, Clock.wait .negativeZero c = c := by
    intro c
    have still := Binary64.add_negativeZero c.time
    show { c with time := c.time + .negativeZero } = c
    rw [still]
  dsimp only
  refine ⟨run_same_on_every_terminal _ _ _ _ _ (fun c _ => timeless c) (fun c _ => timeless c), ?_, ?_⟩
  · decide +kernel
  · decide +kernel

end Transfer
end MeteredDownload
