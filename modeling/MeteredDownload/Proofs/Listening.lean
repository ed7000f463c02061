import Mathlib.Data.List.Induction
import MeteredDownload.Proofs.Accounting

/-!
# Whom a terminal can tell of its failures

A display lives through calls and through acts of its terminal, in any order; `Display.Move` is the smallest
part of that after which anything can be seen.  Whatever happens, all that a display does with its terminal
follows from the log of the terminal alone (`Display.FollowsLog`): what it counts, when it writes no more, and
from when on it does not listen.  So no alarm that a terminal raises after the report on a failed text goes
unheard.
-/
set_option autoImplicit false
namespace MeteredDownload
namespace Display

/-- A part of a call on a display, or an act of its terminal between calls. -/
inductive Move where
  | erase
  | put (line : String)
  | rewind
  | newline
  | close
  | act (deed : TerminalAct)

inductive Event where
  | draw (line : String)
  | rewind
  | finish
  | close
  | act (deed : TerminalAct)

def Event.moves : Event → List Move
  | .draw line => [.erase, .put line]
  | .rewind => [.rewind]
  | .finish => [.newline, .close]
  | .close => [.close]
  | .act deed => [.act deed]

variable {κ : Type} [Clock κ]

def move (d : Display κ) : Move → Display κ
  | .erase => d.erase
  | .put line => d.put line
  | .rewind => d.rewind
  | .newline => d.send "\n"
  | .close => d.close
  | .act deed => d.act deed

def after (d : Display κ) (moves : List Move) : Display κ := moves.foldl move d

def happen (d : Display κ) : Event → Display κ
  | .draw line => d.draw line
  | .rewind => d.rewind
  | .finish => d.finish
  | .close => d.close
  | .act deed => d.act deed

theorem after_append (d : Display κ) (moves later : List Move) :
    d.after (moves ++ later) = (d.after moves).after later :=
  List.foldl_append ..

theorem happen_eq_after (d : Display κ) (event : Event) : d.happen event = d.after event.moves := by
  cases event <;> rfl

theorem history_eq_after (d : Display κ) (events : List Event) :
    events.foldl happen d = d.after (events.flatMap Event.moves) := by
  induction events generalizing d with
  | nil => rfl
  | cons event rest ih => rw [List.foldl_cons, List.flatMap_cons, after_append, ih, happen_eq_after]

/-! ## One move -/

section Move
variable {others : Nat} {d : Display κ}

/-- A move passes at most one text, or it closes, or the terminal acts. -/
theorem move_cases (d : Display κ) (move : Move) :
    (move ≠ .close ∧ ∃ (e : Display κ) (text : String) (width? : Option Nat),
      (e = d ∨ e = d.send text) ∧ d.move move = e.resized width?) ∨
    (move = .close ∧ d.move move = d.close) ∨
    ∃ deed, move = .act deed ∧ d.move move = d.act deed := by
  cases move with
  | erase =>
    refine .inl ⟨nofun, ?_⟩
    simp only [Display.move, erase]
    split
    · exact ⟨d, "", d.renderer.width?, .inl rfl, rfl⟩
    · next width _ => exact ⟨_, Text.spaces width ++ "\r", _, .inr rfl, rfl⟩
  | put line => exact .inl ⟨nofun, _, line, _, .inr rfl, rfl⟩
  | rewind => exact .inl ⟨nofun, _, "\r", _, .inr rfl, rfl⟩
  | newline => exact .inl ⟨nofun, _, "\n", _, .inr rfl, rfl⟩
  | close => exact .inr (.inl ⟨rfl, rfl⟩)
  | act deed => exact .inr (.inr ⟨deed, rfl, rfl⟩)

theorem Tracks.move (tracks : Tracks others 0 d) (move : Move) : Tracks others 0 (d.move move) := by
  rcases move_cases d move with ⟨_, e, text, width?, rfl | rfl, same⟩ | ⟨_, same⟩ | ⟨deed, _, same⟩
  · rw [same]
    exact tracks.resized width?
  · rw [same]
    exact (tracks.send text).resized width?
  · rw [same]
    exact tracks.shut.release
  · rw [same]
    exact (tracks.act_spec deed).1

theorem closed_move (d : Display κ) (move : Move) :
    (d.move move).renderer.closed = true ↔ d.renderer.closed = true ∨ move = .close := by
  rcases move_cases d move with ⟨other, e, text, width?, rfl | rfl, same⟩ | ⟨rfl, same⟩ | ⟨deed, rfl, same⟩
  · simp [same, resized, other]
  · simp [same, resized, other, (send_kept text d).closed]
  · simp [same, closed_close]
  · simp [same, (act_kept d deed).closed]

theorem Released.send (released : Released d) (text : String) : Released (d.send text) := by
  by_cases stopped : d.HasStopped
  · rwa [send_of_stopped stopped]
  · intro closed
    rw [(send_kept text d).closed] at closed
    exact absurd (.inr closed) stopped

theorem Released.move (released : Released d) (tracks : Tracks others 0 d) (move : Move) :
    Released (d.move move) := by
  rcases move_cases d move with ⟨_, e, text, width?, rfl | rfl, same⟩ | ⟨_, same⟩ | ⟨deed, _, same⟩
  · rw [same]
    exact released
  · rw [same]
    exact released.send text
  · rw [same]
    exact released_release tracks.shut
  · rw [same]
    exact (tracks.act_spec deed).2.1 released

theorem hasFailed_of_detached (tracks : Tracks others 0 d) (move : Move)
    (before : d.renderer.attached = true) (after : (d.move move).renderer.attached = false) :
    (d.move move).terminal.hasFailed = false := by
  rcases move_cases d move with ⟨_, e, text, width?, rfl | rfl, same⟩ | ⟨_, same⟩ | ⟨deed, _, same⟩
  · rw [same, resized, before] at after
    cases after
  · have detached : (d.send text).renderer.attached = false := by rwa [same] at after
    by_cases stopped : d.HasStopped
    · rw [send_of_stopped stopped, before] at detached
      cases detached
    · have working : (d.send text).renderer.closed = false := by
        rw [(send_kept text d).closed]
        exact (working_of_not_hasStopped stopped).2
      rw [(tracks.send text).attached_of_open working] at detached
      cases detached
  · rw [same] at after ⊢
    exact hasFailed_of_release tracks.shut before after
  · rw [same] at after ⊢
    exact (tracks.act_spec deed).2.2 before after

theorem rests_move (stopped : d.HasStopped) (move : Move) :
    Rests d (d.move move) := by
  rcases move_cases d move with ⟨_, e, text, width?, passes, same⟩ | ⟨_, same⟩ | ⟨deed, _, same⟩
  · rw [send_of_stopped stopped, or_self] at passes
    rw [same, passes]
    exact ⟨rfl, id, id, id⟩
  · have shut : Rests d { d with renderer := { d.renderer with closed := true } } :=
      ⟨rfl, id, fun _ => .inr rfl, id⟩
    rw [same]
    exact shut.trans (rests_release _)
  · rw [same]
    exact rests_act d deed

theorem rests_after (stopped : d.HasStopped) (moves : List Move) :
    Rests d (d.after moves) := by
  induction moves generalizing d with
  | nil => exact .refl d
  | cons move rest ih =>
    have first := rests_move stopped move
    exact first.trans (ih (first.stopped stopped))

end Move

/-! ## From the start on -/

def IsIdle (start : Display κ) (moves : List Move) : Prop :=
  .close ∈ moves ∧ (start.after moves).terminal.accepted = (start.after moves).terminal.reported ∧
    (start.after moves).terminal.hasFailed = false

def WasIdle (start : Display κ) (moves : List Move) : Prop :=
  ∃ earlier, earlier <+: moves ∧ IsIdle start earlier

/-- What a display does with its terminal, to which `others` listen besides it, by the log of the terminal. -/
structure FollowsLog (others : Nat) (start : Display κ) (moves : List Move) : Prop where
  count : (start.after moves).renderer.outstanding =
    (start.after moves).terminal.accepted - (start.after moves).terminal.reported
  least : 0 ≤ (start.after moves).renderer.outstanding
  /-- Once it is closed, or a failure was told of, it writes no more. -/
  written : .close ∈ moves ∨ (start.after moves).terminal.hasFailed = true →
    ∀ later, (start.after (moves ++ later)).terminal.written = (start.after moves).terminal.written
  listens : ¬ WasIdle start moves → (start.after moves).terminal.listeners = others + 1
  released : WasIdle start moves → (start.after moves).terminal.listeners = others
  /-- If a failure was told of before, it listens forever. -/
  held : (start.after moves).terminal.hasFailed = true → ¬ WasIdle start moves →
    ∀ later, (start.after (moves ++ later)).terminal.listeners = others + 1
  /-- It hears each alarm after a report that told of a failure. -/
  heard : (start.after moves).terminal.signals.toList.Pairwise fun signal later =>
    signal.isFailingReport = true → later.Reaches (others + 1)

section History
variable {others : Nat} {start : Display κ}

theorem tracks_after (tracks : Tracks others 0 start) (moves : List Move) :
    Tracks others 0 (start.after moves) := by
  induction moves generalizing start with
  | nil => exact tracks
  | cons move rest ih => exact ih (tracks.move move)

theorem closed_after (working : start.renderer.closed = false) (moves : List Move) :
    (start.after moves).renderer.closed = true ↔ .close ∈ moves := by
  induction moves using List.reverseRecOn with
  | nil => simp [after, working]
  | append_singleton moves move ih =>
    rw [after_append]
    simp only [after, List.foldl_cons, List.foldl_nil] at ih ⊢
    rw [closed_move, ih]
    simp [eq_comm]

theorem released_after (tracks : Tracks others 0 start) (released : Released start) (moves : List Move) :
    Released (start.after moves) := by
  induction moves generalizing start with
  | nil => exact released
  | cons move rest ih => exact ih (tracks.move move) (released.move tracks move)

theorem wasIdle_append (start : Display κ) (moves : List Move) (move : Move) :
    WasIdle start (moves ++ [move]) ↔ WasIdle start moves ∨ IsIdle start (moves ++ [move]) := by
  simp only [WasIdle, List.prefix_concat_iff]
  constructor
  · rintro ⟨earlier, same | before, idle⟩
    · rw [same] at idle
      exact .inr idle
    · exact .inl ⟨earlier, before, idle⟩
  · rintro (⟨earlier, before, idle⟩ | idle)
    · exact ⟨earlier, .inr before, idle⟩
    · exact ⟨_, .inl rfl, idle⟩

theorem detached_of_isIdle (tracks : Tracks others 0 start) (released : Released start)
    (working : start.renderer.closed = false) {moves : List Move} (idle : IsIdle start moves) :
    (start.after moves).renderer.attached = false := by
  obtain ⟨closed, balanced, whole⟩ := idle
  have now := tracks_after tracks moves
  have settled : (start.after moves).renderer.outstanding ≤ 0 := by
    have count := now.count
    omega
  cases attached : (start.after moves).renderer.attached with
  | false => rfl
  | true =>
    have unbroken := (now.broken attached).trans whole
    have gone := released_after tracks released moves ((closed_after working moves).mpr closed) unbroken settled
    rwa [attached] at gone

theorem detached_iff_wasIdle (tracks : Tracks others 0 start) (released : Released start)
    (working : start.renderer.closed = false) (moves : List Move) :
    (start.after moves).renderer.attached = false ↔ WasIdle start moves := by
  induction moves using List.reverseRecOn with
  | nil =>
    have listens : start.renderer.attached = true := tracks.attached_of_open working
    simp [after, listens, WasIdle, IsIdle]
  | append_singleton moves move ih =>
    have before := tracks_after tracks moves
    have step : start.after (moves ++ [move]) = (start.after moves).move move := after_append ..
    rw [wasIdle_append, ← ih]
    constructor
    · intro gone
      -- Either the display had let go before, or the last move made it idle.
      cases listened : (start.after moves).renderer.attached with
      | false => exact .inl rfl
      | true =>
        rw [step] at gone
        obtain ⟨closed, settled⟩ := (before.move move).detached gone
        have whole := hasFailed_of_detached before move listened gone
        have count := (before.move move).count
        refine .inr ⟨?_, ?_, ?_⟩
        · rwa [← closed_after working, step]
        · rw [step]
          omega
        · rwa [step]
    · rintro (gone | idle)
      · have closed := (before.detached gone).1
        rw [step]
        exact (rests_move (.inr closed) move).detached gone
      · exact detached_of_isIdle tracks released working idle

theorem stopped_of_log (tracks : Tracks others 0 start) (working : start.renderer.closed = false)
    {moves : List Move} (ended : .close ∈ moves ∨ (start.after moves).terminal.hasFailed = true) :
    (start.after moves).HasStopped := by
  have now := tracks_after tracks moves
  rcases ended with closed | failed
  · exact .inr ((closed_after working moves).mpr closed)
  · cases attached : (start.after moves).renderer.attached with
    | true => exact .inl ((now.broken attached).trans failed)
    | false => exact .inr (now.detached attached).1

theorem not_wasIdle_append (tracks : Tracks others 0 start) (working : start.renderer.closed = false)
    {moves : List Move} (failed : (start.after moves).terminal.hasFailed = true)
    (never : ¬ WasIdle start moves) (later : List Move) : ¬ WasIdle start (moves ++ later) := by
  rintro ⟨earlier, before, idle⟩
  -- An idle moment within the moves is excluded, and at one behind them the failure is still on the log.
  rcases List.prefix_or_prefix_of_prefix before (List.prefix_append moves later) with inside | ⟨more, rfl⟩
  · exact never ⟨earlier, inside, idle⟩
  · have rests := rests_after (stopped_of_log tracks working (.inr failed)) more
    have whole := idle.2.2
    rw [after_append, rests.failed failed] at whole
    cases whole

end History

/-- A display on a terminal at which one can start and stop to listen does with it what the log of the terminal
demands, whatever happens and in whatever order. -/
theorem history_followsLog (others : Nat) (behaviour : TerminalBehaviour) (clock : κ)
    (attachable : behaviour.attachable = true) (detachable : behaviour.detachable = true) :
    let start := Display.start clock { Terminal.fresh behaviour with listeners := others }
    (∀ events : List Event, events.foldl happen start = start.after (events.flatMap Event.moves)) ∧
    ∀ moves : List Move, FollowsLog others start moves := by
  intro start
  have tracks : Tracks others 0 start := tracks_start clock attachable detachable
  have working : start.renderer.closed = false := rfl
  have released : Released start := by
    intro closed
    rw [working] at closed
    cases closed
  have listeners : ∀ moves, ¬ WasIdle start moves → (start.after moves).terminal.listeners = others + 1 := by
    intro moves never
    have now := (tracks_after tracks moves).listeners
    rw [← detached_iff_wasIdle tracks released working, Bool.not_eq_false] at never
    rwa [never] at now
  refine ⟨history_eq_after start, ?_⟩
  intro moves
  have now := tracks_after tracks moves
  refine ⟨?_, ?_, ?_, listeners moves, ?_, ?_, now.heard⟩
  · have count := now.count
    omega
  · have room := now.room
    omega
  · intro ended later
    rw [after_append]
    exact (rests_after (stopped_of_log tracks working ended) later).written
  · intro idle
    have gone := now.listeners
    rw [← detached_iff_wasIdle tracks released working] at idle
    rwa [idle] at gone
  · intro failed never later
    exact listeners _ (not_wasIdle_append tracks working failed never later)

/-- The last text is reported to have failed after the display was closed: the alarm finds all three who listen,
and so would every later one. -/
theorem history_followsLog_of_late_failure :
    let failure : Failure := .raised .error "gone" none (.text "EPIPE")
    let behaviour : TerminalBehaviour :=
      { fate := fun i => .accepted (if i = 1 then some failure else none) .later, delay := 0,
        attachable := true, detachable := true }
    let start := Display.start () { Terminal.fresh behaviour with listeners := 2 }
    let moves := [Event.draw "50%", .finish, .act (.report 0), .act (.report 0), .act (.alarm failure)].flatMap
      Event.moves
    (start.after moves).terminal.signals = #[.report none, .report failure, .alarm failure 3] ∧
      ∀ later, (start.after (moves ++ later)).terminal.listeners = 3 := by
  intro failure behaviour start moves
  have follows : FollowsLog 2 start moves := (history_followsLog 2 behaviour () rfl rfl).2 moves
  have signals : (start.after moves).terminal.signals =
      #[.report none, .report failure, .alarm failure 3] := by rfl
  have listeners : (start.after moves).terminal.listeners = 3 := by rfl
  have failed : (start.after moves).terminal.hasFailed = true := by rfl
  have never : ¬ WasIdle start moves := by
    intro idle
    have gone := follows.released idle
    rw [listeners] at gone
    cases gone
  exact ⟨signals, follows.held failed never⟩

end Display
end MeteredDownload
