import MeteredDownload.Proofs.Display

/-!
# What a display keeps account of

The log of a terminal tells how many texts it accepted, on how many it reported, and whether it ever failed.
A display keeps account of it (`Display.Tracks`): it counts the texts that wait for a report, it knows of each
failure as long as it listens, and it listens on after a report that told of one.  `Display.Released` says that
it does not listen for longer than it has to.
-/
set_option autoImplicit false
namespace MeteredDownload

open Numeric Text Log

namespace Signal

def isReport : Signal → Bool
  | .report _ => true
  | .alarm .. => false

def tellsFailure : Signal → Bool
  | .report failure? => failure?.isSome
  | .alarm .. => true

def isFailingReport (signal : Signal) : Bool := signal.isReport && signal.tellsFailure

def Reaches (n : Nat) : Signal → Prop
  | .report _ => True
  | .alarm _ listeners => listeners = n

end Signal

namespace Terminal

def accepted (t : Terminal) : Nat := t.written.toList.countP (·.mark != .refused)

def reported (t : Terminal) : Nat := t.signals.toList.countP Signal.isReport

def hasFailed (t : Terminal) : Bool := t.signals.toList.any Signal.tellsFailure

/-- The terminal has reported on every text that it accepted, and never told of a failure. -/
structure Calm (t : Terminal) : Prop where
  settled : t.accepted = t.reported
  whole : t.hasFailed = false

theorem Calm.tellsNone {t : Terminal} (calm : t.Calm) :
    ∀ signal ∈ t.signals.toList, signal.tellsFailure = false := by
  have whole : ¬ t.signals.toList.any Signal.tellsFailure = true := Bool.eq_false_iff.mp calm.whole
  intro signal member
  rw [List.any_eq_true] at whole
  exact Bool.eq_false_iff.mpr fun tells => whole ⟨signal, member, tells⟩

section Log
variable (t : Terminal) (signal : Signal) (chunk : String) (mark : Mark)

@[simp] theorem accepted_hear : (t.hear signal).accepted = t.accepted := rfl

@[simp] theorem reported_hear :
    (t.hear signal).reported = t.reported + if signal.isReport then 1 else 0 := by
  simp [reported, hear, List.countP_append, List.countP_singleton]

@[simp] theorem hasFailed_hear : (t.hear signal).hasFailed = (t.hasFailed || signal.tellsFailure) := by
  simp [hasFailed, hear]

@[simp] theorem accepted_add :
    (t.add chunk mark).accepted = t.accepted + if mark != .refused then 1 else 0 := by
  simp [accepted, add, List.countP_append, List.countP_singleton]

@[simp] theorem reported_add : (t.add chunk mark).reported = t.reported := rfl

@[simp] theorem hasFailed_add : (t.add chunk mark).hasFailed = t.hasFailed := rfl

@[simp] theorem accepted_detach : t.detach.accepted = t.accepted := rfl

@[simp] theorem reported_detach : t.detach.reported = t.reported := rfl

@[simp] theorem hasFailed_detach : t.detach.hasFailed = t.hasFailed := rfl

end Log

end Terminal

namespace Display
variable {κ : Type}

/-- The display keeps account of its terminal, to which `others` listen besides it.  A call under way counts a
text that is not accepted yet; there are `extra` of those. -/
structure Tracks (others extra : Nat) (d : Display κ) : Prop where
  detachable : d.terminal.behaviour.detachable = true
  count : d.renderer.outstanding = d.terminal.accepted - d.terminal.reported + extra
  room : (d.due.length : Int) + extra ≤ d.renderer.outstanding
  listening : d.renderer.listening = d.renderer.attached
  listeners : d.terminal.listeners = others + d.renderer.attached.toNat
  broken : d.renderer.attached = true → d.renderer.broken = d.terminal.hasFailed
  detached : d.renderer.attached = false → d.renderer.closed = true ∧ d.renderer.outstanding = 0
  failing : ∀ signal ∈ d.terminal.signals.toList, signal.isFailingReport = true →
    d.renderer.attached = true ∧ d.renderer.broken = true
  heard : d.terminal.signals.toList.Pairwise fun signal later =>
    signal.isFailingReport = true → later.Reaches (others + 1)

def Released (d : Display κ) : Prop :=
  d.renderer.closed = true → d.renderer.broken = false → d.renderer.outstanding ≤ 0 →
    d.renderer.attached = false

variable {others extra : Nat} {d : Display κ}

theorem Tracks.attached_of_open (tracks : Tracks others extra d) (working : d.renderer.closed = false) :
    d.renderer.attached = true := by
  cases attached : d.renderer.attached with
  | true => rfl
  | false =>
    have closed := (tracks.detached attached).1
    rw [working] at closed
    cases closed

theorem Tracks.attached_of_owed (tracks : Tracks others extra d)
    (owed : (d.due.length : Int) + extra + 1 ≤ d.renderer.outstanding) : d.renderer.attached = true := by
  cases attached : d.renderer.attached with
  | true => rfl
  | false =>
    have settled := (tracks.detached attached).2
    omega

/-! ## Letting go -/

theorem release_cases (tracks : Tracks others extra d) :
    (d.release = d ∧ Released d) ∨
    (d.renderer.attached = true ∧ d.renderer.closed = true ∧ d.renderer.broken = false ∧
      d.renderer.outstanding ≤ 0 ∧
      d.release = { d with terminal := d.terminal.detach,
                           renderer := { d.renderer with listening := false, attached := false } }) := by
  have listening := tracks.listening
  unfold release Released
  by_cases ready : (d.renderer.listening && d.renderer.closed && !d.renderer.broken &&
      decide (d.renderer.outstanding ≤ 0)) = true
  · rw [if_pos ready, if_pos tracks.detachable]
    simp only [Bool.and_eq_true, Bool.not_eq_true', decide_eq_true_eq, listening] at ready
    obtain ⟨⟨⟨attached, closed⟩, unbroken⟩, settled⟩ := ready
    exact .inr ⟨attached, closed, unbroken, settled, rfl⟩
  · rw [if_neg ready]
    refine .inl ⟨rfl, ?_⟩
    intro closed unbroken settled
    simpa [listening, closed, unbroken, settled] using ready

theorem Tracks.release (tracks : Tracks others extra d) : Tracks others extra d.release := by
  rcases release_cases tracks with ⟨same, _⟩ | ⟨attached, closed, unbroken, settled, gone⟩
  · rwa [same]
  · have room := tracks.room
    have listeners := tracks.listeners
    rw [attached] at listeners
    rw [gone]
    refine ⟨tracks.detachable, tracks.count, room, rfl, ?_, ?_, ?_, ?_, tracks.heard⟩
    · simp [Terminal.detach, listeners]
    · intro still
      cases still
    · intro _
      exact ⟨closed, by dsimp only; omega⟩
    · intro signal member failing
      have broken := (tracks.failing signal member failing).2
      rw [unbroken] at broken
      cases broken

theorem released_release (tracks : Tracks others extra d) : Released d.release := by
  rcases release_cases tracks with ⟨same, released⟩ | ⟨_, _, _, _, gone⟩
  · rwa [same]
  · rw [gone]
    intro _ _ _
    rfl

theorem hasFailed_of_release (tracks : Tracks others extra d) (before : d.renderer.attached = true)
    (after : d.release.renderer.attached = false) : d.release.terminal.hasFailed = false := by
  rcases release_cases tracks with ⟨same, _⟩ | ⟨_, _, unbroken, _, gone⟩
  · rw [same, before] at after
    cases after
  · rw [gone, Terminal.hasFailed_detach, ← tracks.broken before, unbroken]

/-! ## Hearing of the terminal -/

theorem heard_hear (tracks : Tracks others extra d) {signal : Signal}
    (reaches : d.renderer.attached = true → signal.Reaches (others + 1)) :
    (d.terminal.hear signal).signals.toList.Pairwise fun signal later =>
      signal.isFailingReport = true → later.Reaches (others + 1) := by
  simp only [Terminal.hear, Array.toList_push, List.pairwise_append, List.mem_singleton, forall_eq]
  refine ⟨tracks.heard, List.pairwise_singleton .., ?_⟩
  intro earlier member failing
  exact reaches (tracks.failing earlier member failing).1

theorem Tracks.announce (tracks : Tracks others extra d) (failure : Failure) :
    Tracks others extra (d.announce failure) := by
  have listeners := tracks.listeners
  refine ⟨tracks.detachable, ?_, tracks.room, tracks.listening, listeners, ?_, tracks.detached, ?_,
    heard_hear tracks ?_⟩
  · simpa [Display.announce, Signal.isReport] using tracks.count
  · intro attached
    have listens : d.renderer.attached = true := attached
    simp [Display.announce, listens, Signal.tellsFailure]
  · intro signal member failing
    simp only [Display.announce, Terminal.hear, Array.toList_push, List.mem_append, List.mem_singleton] at member
    rcases member with earlier | rfl
    · obtain ⟨attached, broken⟩ := tracks.failing signal earlier failing
      exact ⟨attached, by simp [Display.announce, broken]⟩
    · cases failing
  · intro attached
    rw [attached] at listeners
    exact listeners

theorem released_announce (failure : Failure) (d : Display κ) : Released (d.announce failure) := by
  intro _ unbroken _
  simp only [Display.announce, Bool.or_eq_false_iff] at unbroken
  exact unbroken.2

def noted (failure? : Option Failure) (d : Display κ) : Display κ :=
  { d with terminal := d.terminal.hear (.report failure?),
           renderer := { d.renderer with outstanding := d.renderer.outstanding - 1,
                                         broken := d.renderer.broken || failure?.isSome } }

theorem Tracks.noted (tracks : Tracks others extra d)
    (owed : (d.due.length : Int) + extra + 1 ≤ d.renderer.outstanding) (failure? : Option Failure) :
    Tracks others extra (d.noted failure?) := by
  have count := tracks.count
  have attached := tracks.attached_of_owed owed
  refine ⟨tracks.detachable, ?_, ?_, tracks.listening, tracks.listeners, ?_, ?_, ?_, heard_hear tracks ?_⟩
  · simp [Display.noted, Signal.isReport, count]
    omega
  · simp only [Display.noted]
    omega
  · intro _
    simp [Display.noted, Signal.tellsFailure, tracks.broken attached]
  · intro without
    have same : d.renderer.attached = false := without
    rw [attached] at same
    cases same
  · intro signal member failing
    simp only [Display.noted, Terminal.hear, Array.toList_push, List.mem_append, List.mem_singleton] at member
    rcases member with earlier | rfl
    · exact ⟨attached, by simp [Display.noted, (tracks.failing signal earlier failing).2]⟩
    · refine ⟨attached, ?_⟩
      simp only [Signal.isFailingReport, Signal.isReport, Signal.tellsFailure, Bool.true_and] at failing
      simp [Display.noted, failing]
  · intro _
    trivial

theorem complete_none (d : Display κ) : d.complete none = (d.noted none).release := by
  simp [complete, noted]

theorem complete_some (failure : Failure) (d : Display κ) :
    d.complete failure =
      ((d.noted failure).log (.debug "Status write failed" [("error", .error failure)])).release := by
  simp [complete, noted, log]

theorem Tracks.log (tracks : Tracks others extra d) (record : Record) : Tracks others extra (d.log record) :=
  ⟨tracks.detachable, tracks.count, tracks.room, tracks.listening, tracks.listeners, tracks.broken,
    tracks.detached, tracks.failing, tracks.heard⟩

theorem Tracks.complete (tracks : Tracks others extra d)
    (owed : (d.due.length : Int) + extra + 1 ≤ d.renderer.outstanding) (failure? : Option Failure) :
    Tracks others extra (d.complete failure?) ∧ Released (d.complete failure?) ∧
    ((d.complete failure?).renderer.attached = false →
      (d.complete failure?).terminal.hasFailed = false) := by
  have attached := tracks.attached_of_owed owed
  have noted := tracks.noted owed failure?
  cases failure? with
  | none =>
    rw [complete_none]
    exact ⟨noted.release, released_release noted, hasFailed_of_release noted attached⟩
  | some failure =>
    rw [complete_some]
    have logged := noted.log (.debug "Status write failed" [("error", .error failure)])
    exact ⟨logged.release, released_release logged, hasFailed_of_release logged attached⟩

theorem Tracks.owed_of_due (tracks : Tracks others extra d) {i : Nat} {failure? : Option Failure}
    (due : d.due[i]? = some failure?) :
    Tracks others extra { d with due := d.due.eraseIdx i } ∧
    ((d.due.eraseIdx i).length : Int) + extra + 1 ≤ d.renderer.outstanding := by
  have room := tracks.room
  have within : i < d.due.length := (List.getElem?_eq_some_iff.mp due).1
  have fewer : (d.due.eraseIdx i).length + 1 = d.due.length := by
    rw [List.length_eraseIdx_of_lt within]
    omega
  refine ⟨⟨tracks.detachable, tracks.count, ?_, tracks.listening, tracks.listeners, tracks.broken,
    tracks.detached, tracks.failing, tracks.heard⟩, by omega⟩
  dsimp only
  omega

/-- Whatever the terminal does, the account is kept, and the display lets go in time, never after a failure. -/
theorem Tracks.act_spec (tracks : Tracks others extra d) (act : TerminalAct) :
    Tracks others extra (d.act act) ∧ (Released d → Released (d.act act)) ∧
    (d.renderer.attached = true → (d.act act).renderer.attached = false →
      (d.act act).terminal.hasFailed = false) := by
  cases act with
  | alarm failure =>
    refine ⟨tracks.announce failure, fun _ => released_announce failure d, ?_⟩
    intro before after
    have same : d.renderer.attached = false := after
    rw [before] at same
    cases same
  | report i =>
    unfold Display.act
    dsimp only
    split
    · refine ⟨tracks, id, ?_⟩
      intro before after
      rw [before] at after
      cases after
    · next failure? due =>
      obtain ⟨fewer, owed⟩ := tracks.owed_of_due due
      obtain ⟨kept, released, whole⟩ := fewer.complete owed failure?
      exact ⟨kept, fun _ => released, fun _ => whole⟩

theorem Tracks.perform (tracks : Tracks others extra d) (acts : List TerminalAct) :
    Tracks others extra (d.perform acts) := by
  induction acts generalizing d with
  | nil => exact tracks
  | cons act rest ih => exact ih (tracks.act_spec act).1

def answered (failure? : Option Failure) (completion : Completion) (d : Display κ) : Display κ :=
  match completion with
  | .never => d
  | .atOnce => d.report failure?
  | .later => { d with due := d.due ++ [failure?] }

theorem Tracks.answered (tracks : Tracks others 0 d)
    (owed : (d.due.length : Int) + (0 : Nat) + 1 ≤ d.renderer.outstanding) (failure? : Option Failure)
    (completion : Completion) : Tracks others 0 (d.answered failure? completion) := by
  cases completion with
  | never => exact tracks
  | atOnce =>
    -- The report comes inside the call, and the alarm of a failure right behind it.
    have completed := (tracks.complete owed failure?).1
    cases failure? with
    | none => exact completed
    | some failure => exact completed.announce failure
  | later =>
    refine ⟨tracks.detachable, tracks.count, ?_, tracks.listening, tracks.listeners, tracks.broken,
      tracks.detached, tracks.failing, tracks.heard⟩
    simpa [Display.answered, Int.add_assoc] using owed

def resized (width? : Option Nat) (d : Display κ) : Display κ :=
  { d with renderer := { d.renderer with width? } }

theorem Tracks.resized (tracks : Tracks others extra d) (width? : Option Nat) :
    Tracks others extra (d.resized width?) :=
  ⟨tracks.detachable, tracks.count, tracks.room, tracks.listening, tracks.listeners, tracks.broken,
    tracks.detached, tracks.failing, tracks.heard⟩

theorem Tracks.shut (tracks : Tracks others extra d) :
    Tracks others extra { d with renderer := { d.renderer with closed := true } } :=
  ⟨tracks.detachable, tracks.count, tracks.room, tracks.listening, tracks.listeners, tracks.broken,
    fun without => ⟨rfl, (tracks.detached without).2⟩, tracks.failing, tracks.heard⟩

theorem tracks_start_of_calm {terminal : Terminal} (clock : κ) (calm : terminal.Calm)
    (attachable : terminal.behaviour.attachable = true) (detachable : terminal.behaviour.detachable = true) :
    Tracks terminal.listeners 0 (Display.start clock terminal) := by
  have balance : (terminal.accepted : Int) = terminal.reported := congrArg _ calm.settled
  have whole : ∀ signal ∈ terminal.signals.toList, signal.isFailingReport = false := by
    intro signal member
    simp [Signal.isFailingReport, calm.tellsNone signal member]
  simp only [Display.start, attachable, if_true]
  refine ⟨detachable, ?_, Int.le_refl 0, rfl, rfl, ?_, nofun, ?_, ?_⟩
  · show (0 : Int) = terminal.accepted - terminal.reported + (0 : Nat)
    omega
  · intro _
    exact calm.whole.symm
  · intro signal member failing
    rw [whole signal member] at failing
    cases failing
  · refine List.pairwise_of_forall_mem_list ?_
    intro signal member later _ failing
    rw [whole signal member] at failing
    cases failing

theorem tracks_start {behaviour : TerminalBehaviour} (clock : κ) (attachable : behaviour.attachable = true)
    (detachable : behaviour.detachable = true) :
    Tracks others 0 (Display.start clock { Terminal.fresh behaviour with listeners := others }) := by
  have calm : Terminal.Calm { Terminal.fresh behaviour with listeners := others } := ⟨rfl, rfl⟩
  exact tracks_start_of_calm clock calm attachable detachable

/-! ## A display that has stopped -/

/-- The second display has written no more than the first, and has taken nothing back. -/
structure Rests (d e : Display κ) : Prop where
  written : e.terminal.written = d.terminal.written
  failed : d.terminal.hasFailed = true → e.terminal.hasFailed = true
  stopped : d.HasStopped → e.HasStopped
  detached : d.renderer.attached = false → e.renderer.attached = false

section Rest
variable {d e f : Display κ}

theorem Rests.refl (d : Display κ) : Rests d d := ⟨rfl, id, id, id⟩

theorem Rests.trans (first : Rests d e) (second : Rests e f) : Rests d f :=
  ⟨second.written.trans first.written, second.failed ∘ first.failed, second.stopped ∘ first.stopped,
    second.detached ∘ first.detached⟩

theorem rests_release (d : Display κ) : Rests d d.release := by
  unfold release
  dsimp only
  split
  · split
    · exact ⟨rfl, id, id, fun _ => rfl⟩
    · exact ⟨rfl, id, id, id⟩
  · exact .refl d

theorem rests_announce (failure : Failure) (d : Display κ) : Rests d (d.announce failure) := by
  refine ⟨rfl, ?_, ?_, id⟩
  · intro failed
    simp [announce, failed]
  · rintro (broken | closed)
    · exact .inl (by simp [announce, broken])
    · exact .inr closed

theorem rests_noted (failure? : Option Failure) (d : Display κ) : Rests d (d.noted failure?) := by
  refine ⟨rfl, ?_, ?_, id⟩
  · intro failed
    simp [noted, failed]
  · rintro (broken | closed)
    · exact .inl (by simp [noted, broken])
    · exact .inr closed

theorem rests_log (record : Log.Record) (d : Display κ) : Rests d (d.log record) := ⟨rfl, id, id, id⟩

theorem rests_act (d : Display κ) (act : TerminalAct) : Rests d (d.act act) := by
  cases act with
  | alarm failure => exact rests_announce failure d
  | report i =>
    unfold Display.act
    dsimp only
    split
    · exact .refl d
    · next failure? _ =>
      have fewer : Rests d { d with due := d.due.eraseIdx i } := ⟨rfl, id, id, id⟩
      cases failure? with
      | none =>
        rw [complete_none]
        exact (fewer.trans (rests_noted none _)).trans (rests_release _)
      | some failure =>
        rw [complete_some]
        exact ((fewer.trans (rests_noted failure _)).trans (rests_log _ _)).trans (rests_release _)

end Rest

/-! ## Passing a text -/

theorem working_of_not_hasStopped (going : ¬ d.HasStopped) :
    d.renderer.broken = false ∧ d.renderer.closed = false := by
  simpa [HasStopped] using going

section Passing
variable [Clock κ]

def passed (chunk : String) (mark : Mark) (d : Display κ) : Display κ :=
  { d with clock := Clock.wait d.terminal.behaviour.delay d.clock, terminal := d.terminal.add chunk mark,
           renderer := { d.renderer with outstanding := d.renderer.outstanding + 1 } }

theorem send_of_refused {reason : Value} (working : d.renderer.broken = false ∧ d.renderer.closed = false)
    (fate : d.terminal.nextFate = .refused reason) (chunk : String) :
    let e := (d.passed chunk .refused).perform (d.terminal.behaviour.during d.terminal.written.size)
    d.send chunk = Display.log (.debug "Status write failed" [("error", reason)])
      { e with renderer := { e.renderer with outstanding := e.renderer.outstanding - 1 } } := by
  simp only [send, working.1, working.2, Bool.or_self, Bool.false_eq_true, if_false, fate, passed]

theorem send_of_accepted {failure? : Option Failure} {completion : Completion}
    (working : d.renderer.broken = false ∧ d.renderer.closed = false)
    (fate : d.terminal.nextFate = .accepted failure? completion) (chunk : String) :
    ∃ mark, mark ≠ .refused ∧
      d.send chunk = ((d.passed chunk mark).answered failure? completion).perform
        (d.terminal.behaviour.during d.terminal.written.size) := by
  refine ⟨if failure?.isSome then .failed else .shown, by split <;> decide, ?_⟩
  simp only [send, working.1, working.2, Bool.or_self, Bool.false_eq_true, if_false, fate, passed]
  cases completion <;> rfl

theorem Tracks.passed (tracks : Tracks others 0 d) (attached : d.renderer.attached = true) (chunk : String)
    (mark : Mark) :
    Tracks others (if mark = .refused then 1 else 0) (d.passed chunk mark) := by
  have room := tracks.room
  refine ⟨tracks.detachable, ?_, ?_, tracks.listening, tracks.listeners, tracks.broken, ?_, tracks.failing,
    tracks.heard⟩
  · have count := tracks.count
    cases mark <;> simp [Display.passed, count] <;> omega
  · cases mark <;> simp [Display.passed] <;> omega
  · intro without
    have same : d.renderer.attached = false := without
    rw [attached] at same
    cases same

theorem owed_passed (tracks : Tracks others 0 d) (chunk : String) (mark : Mark) :
    ((d.passed chunk mark).due.length : Int) + (0 : Nat) + 1 ≤ (d.passed chunk mark).renderer.outstanding := by
  have room := tracks.room
  simp only [passed]
  omega

/-- An account is kept of every text, refused or accepted, and of all that the terminal does meanwhile. -/
theorem Tracks.send (tracks : Tracks others 0 d) (chunk : String) : Tracks others 0 (d.send chunk) := by
  by_cases stopped : d.HasStopped
  · rwa [send_of_stopped stopped]
  · have working := working_of_not_hasStopped stopped
    have attached := tracks.attached_of_open working.2
    cases fate : d.terminal.nextFate with
    | refused reason =>
      rw [send_of_refused working fate]
      -- Up to the end of the call the text counts, although it was not accepted: one extra meanwhile.
      have under := (tracks.passed attached chunk .refused).perform
        (d.terminal.behaviour.during d.terminal.written.size)
      have count := under.count
      have room := under.room
      simp only [if_true] at count room
      apply Tracks.log
      refine ⟨under.detachable, by dsimp only; omega, by dsimp only; omega, under.listening, under.listeners,
        under.broken, ?_, under.failing, under.heard⟩
      intro without
      have settled := (under.detached without).2
      omega
    | accepted failure? completion =>
      obtain ⟨mark, taken, same⟩ := send_of_accepted working fate chunk
      have counted := tracks.passed attached chunk mark
      rw [if_neg taken] at counted
      rw [same]
      exact (counted.answered (owed_passed tracks chunk mark) failure? completion).perform _

end Passing

end Display
end MeteredDownload
