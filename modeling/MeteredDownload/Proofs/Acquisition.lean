import MeteredDownload.Downloader
import MeteredDownload.Proofs.Release

/-!
# What a download acquires and gives back

A download asks for a source, and its transfer starts to listen to a terminal; whatever it comes to, both are to
be given back.  All else that it does leaves sources and terminals alone (`Program.Spares`).  So what is given
back depends on the transfer, and that gives back all, unless its options are of no use (`download_releases`):
then it ends after it has started to listen, and before anybody has taken charge of the source.
-/
set_option autoImplicit false
namespace MeteredDownload

open Numeric Report Log

structure World.Untouched (w after : World) : Prop where
  terminals : after.terminals = w.terminals
  closes : after.closes = w.closes

theorem World.Untouched.trans {first second third : World} (before : first.Untouched second)
    (after : second.Untouched third) : first.Untouched third :=
  ⟨after.terminals.trans before.terminals, after.closes.trans before.closes⟩

namespace Program
variable {α β : Type}

def on (w : World) (p : Program α) : Except Value α × World := p.run w

section Run
variable (w : World) (p : Program α) (f : α → Program β) (handle : Value → Program α)

theorem on_bind :
    (p >>= f).on w = match p.on w with
      | (.ok a, after) => (f a).on after
      | (.error reason, after) => (.error reason, after) := by
  unfold on
  rw [ExceptT.run_bind]
  simp only [bind, StateT.bind]
  rcases p.run w with ⟨_ | _, _⟩ <;> rfl

theorem on_tryCatch :
    (tryCatch p handle).on w = match p.on w with
      | (.ok a, after) => (.ok a, after)
      | (.error reason, after) => (handle reason).on after := by
  unfold on
  simp only [tryCatch, tryCatchThe, MonadExceptOf.tryCatch, ExceptT.tryCatch, ExceptT.run, ExceptT.mk, bind,
    StateT.bind]
  rcases p w with ⟨_ | _, _⟩ <;> rfl

theorem on_pure (a : α) : (pure a : Program α).on w = (.ok a, w) := rfl

theorem on_get : (get : Program World).on w = (.ok w, w) := rfl

theorem on_modify (change : World → World) : (modify change : Program Unit).on w = (.ok (), change w) := rfl

theorem on_fail (failure : Failure) : (fail failure : Program α).on w = (.error (.error failure), w) := rfl

end Run

def Within (R : World → World → Prop) (p : Program α) : Prop := ∀ w : World, R w (p.on w).2

section Within
variable {R : World → World → Prop} {p : Program α} {f : α → Program β}
  (trans : ∀ {first second third : World}, R first second → R second third → R first third)
include trans

theorem Within.bind (first : Within R p) (rest : ∀ a, Within R (f a)) : Within R (p >>= f) := by
  intro w
  have before := first w
  rw [on_bind]
  revert before
  rcases p.on w with ⟨reason | a, after⟩
  · exact id
  · exact fun before => trans before (rest a after)

theorem Within.tryCatch (first : Within R p) {handle : Value → Program α} (rest : ∀ reason, Within R (handle reason)) :
    Within R (tryCatch p handle) := by
  intro w
  have before := first w
  rw [on_tryCatch]
  revert before
  rcases p.on w with ⟨reason | a, after⟩
  · exact fun before => trans before (rest reason after)
  · exact id

theorem Within.forM {ι : Type} (refl : ∀ w : World, R w w) {each : ι → Program Unit}
    (single : ∀ item, Within R (each item)) (items : Array ι) : Within R (items.forM each) := by
  have all : ∀ items : List ι, Within R (items.foldlM (fun _ item => each item) ()) := by
    intro items
    induction items with
    | nil => exact refl
    | cons item rest ih => exact Within.bind trans (single item) fun _ => ih
  rw [Array.forM, ← Array.foldlM_toList]
  exact all items.toList

end Within

def Spares (p : Program α) : Prop := ∀ w : World, w.Untouched (p.on w).2

section Spares
variable {p : Program α} {f : α → Program β}

theorem Spares.untouched (spares : Spares p) {w after : World} {outcome : Except Value α}
    (run : p.on w = (outcome, after)) : w.Untouched after := by
  have untouched := spares w
  rwa [run] at untouched

theorem spares_pure (a : α) : Spares (pure a) := fun _ => ⟨rfl, rfl⟩

theorem spares_throw (reason : Value) : Spares (throw reason : Program α) := fun _ => ⟨rfl, rfl⟩

theorem spares_fail_bind (failure : Failure) (f : α → Program β) : Spares ((fail failure : Program α) >>= f) :=
  fun _ => ⟨rfl, rfl⟩

theorem spares_get : Spares (get : Program World) := fun _ => ⟨rfl, rfl⟩

theorem spares_modify {change : World → World} (untouched : ∀ w : World, w.Untouched (change w)) :
    Spares (modify change : Program Unit) := untouched

theorem Spares.bind (first : Spares p) (rest : ∀ a, Spares (f a)) : Spares (p >>= f) :=
  Within.bind (R := World.Untouched) .trans first rest

theorem spares_settings : Spares settings := by
  unfold settings
  refine Spares.bind (spares_modify ?_) fun _ => spares_get.bind fun _ => spares_pure _
  exact fun _ => ⟨rfl, rfl⟩

theorem spares_journal : Spares journal := by
  refine spares_get.bind fun w => ?_
  cases w.journal? with
  | some j => exact spares_pure j
  | none =>
    refine spares_settings.bind fun s => spares_get.bind fun later => ?_
    obtain ⟨tree, opened⟩ := Journal.ofSettings s.logging later.tree
    rcases opened with failure | j
    · refine Spares.bind (spares_modify ?_) fun _ => spares_throw _
      exact fun _ => ⟨rfl, rfl⟩
    · refine Spares.bind (spares_modify ?_) fun _ => Spares.bind (spares_modify ?_) fun _ => spares_pure j
      · exact fun _ => ⟨rfl, rfl⟩
      · exact fun _ => ⟨rfl, rfl⟩

theorem spares_note (r : Record) : Spares (note r) := by
  refine spares_journal.bind fun j => ?_
  dsimp only
  split
  · exact spares_fail_bind _ _
  split
  · split
    · exact spares_throw _
    · exact spares_modify fun _ => ⟨rfl, rfl⟩
  · exact spares_pure ()

theorem spares_wallTime : Spares wallTime := fun _ => ⟨rfl, rfl⟩

theorem spares_ofExcept (outcome : Except Value α) : Spares (ofExcept outcome) := by
  cases outcome with
  | error reason => exact spares_throw reason
  | ok a => exact spares_pure a

theorem spares_notes (records : Array Record) : Spares (records.forM note) :=
  Within.forM (R := World.Untouched) .trans (fun _ => ⟨rfl, rfl⟩) spares_note records

end Spares
end Program

/-- The fetcher gets a source that can be closed, and leaves all other sources and the terminals alone. -/
def Fetcher.Delivers (fetch : Fetcher) (url : String) : Prop :=
  ∀ w : World, ∃ source arrival, (fetch url).on w = (.ok source, arrival) ∧ source.closing ≠ .absent ∧
    w.Untouched arrival

namespace Downloader
open Program

def settled (choices : Choices) (source : Source) (w : World) : World :=
  let ended := result choices source w
  { w with times := ended.display.clock,
           terminals := w.terminals.set choices.terminal ended.display.terminal,
           heard := w.heard ++ match choices.listener? with
             | none => #[]
             | some listener => ended.reports.map (listener.seat, ·),
           closes := w.closes + ended.closes }

theorem transfer_untouched (choices : Choices) (source : Source) (w : World) :
    (settled choices source w).Untouched ((transfer choices source).on w).2 := by
  have rest : Spares (do
      (result choices source w).display.records.forM note
      Program.ofExcept (result choices source w).outcome) :=
    (spares_notes _).bind fun _ => spares_ofExcept _
  exact rest (settled choices source w)

theorem journal_on (w : World) :
    journal.on w =
      let loaded := { w with settings := w.settings.load w.environment }
      match w.journal? with
      | some j => (.ok j, w)
      | none =>
        match Journal.ofSettings (loaded.settings.current loaded.environment).logging loaded.tree with
        | (tree, .error failure) => (.error (.error failure), { loaded with tree })
        | (tree, .ok j) => (.ok j, { loaded with tree, journal? := some j }) := by
  cases open? : w.journal? with
  | some j => simp only [journal, on_bind, on_get, open?, on_pure]
  | none =>
    simp only [journal, settings, on_bind, on_get, open?, on_pure, on_modify]
    generalize Journal.ofSettings _ _ = opened
    rcases opened with ⟨tree, failure | j⟩ <;> rfl

theorem journal_on_times (w : World) (times : Timepieces) :
    (journal.on { w with times }).1 = (journal.on w).1 := by
  rw [journal_on, journal_on]
  dsimp only
  split
  · rfl
  · split <;> rfl

theorem note_of_opens {w : World} (opens : (journal.on w).1.isOk = true) {r : Record}
    (plain : r.IsPlain) : ∃ after, (note r).on w = (.ok (), after) := by
  unfold note
  rw [on_bind]
  revert opens
  rcases journal.on w with ⟨reason | j, after⟩
  · intro opens
    cases opens
  · intro _
    simp only [Record.givesText_of_lookup plain.message, plain.unshown?, Bool.not_true, Bool.false_eq_true, if_false]
    split
    · exact ⟨_, rfl⟩
    · exact ⟨_, rfl⟩

theorem note_of_shut {w : World} (shut : (journal.on w).1.isOk = false) (r : Record) :
    ∃ reason after, (note r).on w = (.error reason, after) := by
  unfold note
  rw [on_bind]
  revert shut
  rcases journal.on w with ⟨reason | j, after⟩
  · intro _
    exact ⟨reason, after, rfl⟩
  · intro shut
    cases shut

def departure (url : String) (w : World) : World :=
  ((wallTime >>= fun _ => note (.info "Starting download" [("url", .text url)])).on w).2

theorem download_settles {fetch : Fetcher} {url : String} (delivers : fetch.Delivers url)
    (defaults choices : Choices) {w : World} (opens : (journal.on w).1.isOk = true) :
    ∃ source arrival, (fetch url).on (departure url w) = (.ok source, arrival) ∧ source.closing ≠ .absent ∧
      w.Untouched arrival ∧ (settled (choices.withDefaults defaults) source arrival).Untouched
        ((download fetch defaults choices url).on w).2 := by
  obtain ⟨now, first, timed, same⟩ : ∃ now first, wallTime.on w = (.ok now, first) ∧
      (journal.on first).1 = (journal.on w).1 := ⟨_, _, rfl, journal_on_times w _⟩
  obtain ⟨start, noted⟩ : ∃ start, (note (.info "Starting download" [("url", .text url)])).on first =
      (.ok (), start) := note_of_opens (same ▸ opens) (.ofValues rfl rfl)
  obtain ⟨source, arrival, came, present, untouched⟩ := delivers start
  have before : w.Untouched start := (spares_wallTime.untouched timed).trans ((spares_note _).untouched noted)
  have same : departure url w = start := by
    rw [departure, on_bind, timed]
    dsimp only
    rw [noted]
  refine ⟨source, arrival, same ▸ came, present, before.trans untouched, ?_⟩
  unfold download
  rw [on_bind, timed]
  dsimp only
  rw [on_bind, noted]
  dsimp only
  rw [on_tryCatch, on_bind, came]
  dsimp only
  rw [on_bind]
  have ended := transfer_untouched (choices.withDefaults defaults) source arrival
  revert ended
  -- Whether the transfer fails or the notes behind it do, no more than notes is left to be taken.
  rcases (transfer (choices.withDefaults defaults) source).on arrival with ⟨reason | store, after⟩
  · intro ended
    exact ended.trans (((spares_note _).bind fun _ => spares_throw reason) after)
  · intro ended
    have rest : Spares (do
        let endTime ← wallTime
        note (.info "Download completed"
          [("url", .text url), ("size", .number (.ofNat store.cells.size)),
            ("duration", .number (endTime - now))])
        return store) :=
      spares_wallTime.bind fun _ => (spares_note _).bind fun _ => spares_pure store
    have later := rest after
    dsimp only
    revert later
    generalize Program.on after _ = completed
    rcases completed with ⟨reason | done, last⟩
    · intro later
      exact (ended.trans later).trans (((spares_note _).bind fun _ => spares_throw reason) last)
    · exact ended.trans

theorem download_of_shut {w : World} (shut : (journal.on w).1.isOk = false) (fetch : Fetcher)
    (defaults choices : Choices) (url : String) :
    w.Untouched ((download fetch defaults choices url).on w).2 := by
  obtain ⟨now, first, timed, same⟩ : ∃ now first, wallTime.on w = (.ok now, first) ∧
      (journal.on first).1 = (journal.on w).1 := ⟨_, _, rfl, journal_on_times w _⟩
  obtain ⟨reason, after, refused⟩ := note_of_shut (same ▸ shut) (.info "Starting download" [("url", .text url)])
  unfold download
  rw [on_bind, timed]
  dsimp only
  rw [on_bind, refused]
  exact (spares_wallTime.untouched timed).trans ((spares_note _).untouched refused)

theorem result_of_seated {choices : Choices} {w : World} {terminal : Terminal}
    (seated : w.terminals[choices.terminal]? = some terminal) (source : Source) :
    result choices source w =
      Transfer.run (choices.options w.allocates) source { w.times with useWall := choices.useWall } terminal := by
  simp [result, List.getD_eq_getElem?_getD, seated]

/-- Whatever it comes to, a download closes its source once, and leaves as many who listen to its terminal as
before, if the options of the transfer are sound.  With other options it leaves both as they are when the source
has come: the source open, and the terminal with one more who listens. -/
theorem download_releases (fetch : Fetcher) (defaults choices : Choices) (url : String) (w : World)
    (terminal : Terminal) (delivers : fetch.Delivers url)
    (seated : w.terminals[(choices.withDefaults defaults).terminal]? = some terminal) (calm : terminal.Calm)
    (attachable : terminal.behaviour.attachable = true) (detachable : terminal.behaviour.detachable = true) :
    let all := choices.withDefaults defaults
    let after := ((download fetch defaults choices url).on w).2
    ((journal.on w).1.isOk = false → w.Untouched after) ∧
    ((journal.on w).1.isOk = true → ∃ source arrival,
      (fetch url).on (departure url w) = (.ok source, arrival) ∧
      let display := (result all source arrival).display
      after.terminals[all.terminal]? = some display.terminal ∧
      ((all.options arrival.allocates).Sound → after.closes = w.closes + 1 ∧
        ∀ acts, (display.perform acts).terminal.Calm →
          (display.perform acts).terminal.listeners = terminal.listeners) ∧
      (¬ (all.options arrival.allocates).Sound → after.closes = w.closes ∧ ∀ acts,
        (display.perform acts).terminal.listeners = terminal.listeners + 1)) := by
  intro all after
  refine ⟨fun shut => download_of_shut shut fetch defaults choices url, ?_⟩
  intro opens
  obtain ⟨source, arrival, came, present, untouched, ended⟩ :=
    download_settles delivers defaults choices opens
  have there : arrival.terminals[all.terminal]? = some terminal := by rw [untouched.terminals, seated]
  have same := result_of_seated there source
  have later := Transfer.later_run (all.options arrival.allocates) source
    { arrival.times with useWall := all.useWall } terminal
  rw [← same] at later
  have left : after.closes = w.closes + (result all source arrival).closes := by
    rw [← untouched.closes]
    exact ended.closes
  refine ⟨source, arrival, came, ?_, ?_, ?_⟩
  · have within : all.terminal < arrival.terminals.length := (List.getElem?_eq_some_iff.mp there).1
    rw [ended.terminals]
    exact List.getElem?_set_self within
  -- Sound options: the transfer has run to an end, which closed its display and its source.
  · intro sound
    obtain ⟨blockSize, sized⟩ := Option.isSome_iff_exists.mp sound.sized
    obtain ⟨capacity, sampled⟩ := Option.isSome_iff_exists.mp sound.sampled
    rw [Transfer.run_of_sound sized sampled] at same
    have closed : (result all source arrival).display.renderer.closed = true := by
      rw [same]
      exact Transfer.closed_download source _
    refine ⟨?_, ?_⟩
    · rw [left, same, Transfer.closes_download present]
    · intro acts settled
      have still := (Display.Later.now.perform acts).closed closed
      exact Display.listeners_of_calm (later.perform acts) calm (fun _ => detachable) still settled
  -- With others nothing is closed: the display has only begun, and has begun to listen.
  · intro unsound
    obtain ⟨failure, clock, run⟩ := Transfer.run_of_unsound unsound source
      { arrival.times with useWall := all.useWall } terminal
    rw [run] at same
    refine ⟨by rw [left, same]; rfl, ?_⟩
    intro acts
    have going : ((result all source arrival).display.perform acts).renderer.closed = false := by
      rw [(Display.perform_kept acts _).closed, same]
      rfl
    exact Display.listeners_of_open (later.perform acts) calm attachable detachable going

/-- The second read fails, the source cannot be closed, and the terminal is late with its reports.  The block size
by default would be of no use, but another one was asked for. -/
theorem download_releases_of_failed_read :
    let reads : List ReadStep := [⟨[], .ok ⟨#[1, 2]⟩⟩, ⟨[], .error (.text "reset")⟩]
    let source : Source := ⟨some 10, fun _ => reads, .fails (.text "busy")⟩
    let behaviour : TerminalBehaviour := { TerminalBehaviour.healthy with fate := fun _ => .accepted none .later }
    let terminal : Terminal := { Terminal.fresh behaviour with listeners := 2 }
    let w : World := { World.fresh [] (.empty []) with journal? := some ⟨.info, []⟩,
                                                       terminals := [.fresh .healthy, terminal] }
    let defaults : Choices := { chunkSize? := some (some 0) }
    let choices : Choices := { chunkSize? := some (some 4), tickInterval? := some (some 0), terminal? := some 1 }
    let after := ((download (fun _ => pure source) defaults choices "http://a/").on w).2
    let display := (result (choices.withDefaults defaults) source (departure "http://a/" w)).display
    after.closes = 1 ∧ after.terminals[1]? = some display.terminal ∧ display.terminal.listeners = 3 ∧
      (display.perform [.report 0, .report 0]).terminal.listeners = 2 := by
  intro reads source behaviour terminal w defaults choices after display
  have delivers : Fetcher.Delivers (fun _ => pure source) "http://a/" :=
    fun w => ⟨source, w, rfl, nofun, rfl, rfl⟩
  obtain ⟨_, opened⟩ := download_releases (fun _ => pure source) defaults choices "http://a/" w terminal delivers rfl
    ⟨rfl, rfl⟩ rfl rfl
  obtain ⟨_, _, came, there, sound, _⟩ := opened rfl
  cases came
  obtain ⟨closes, listeners⟩ := sound ⟨by decide +kernel, by decide +kernel⟩
  have settled : (display.perform [.report 0, .report 0]).terminal.Calm := ⟨by decide +kernel, by decide +kernel⟩
  exact ⟨closes, there, by decide +kernel, listeners _ settled⟩

/-- If the block size is zero, the source is never closed. -/
theorem not_released_of_every_choice :
    ¬ ∀ (fetch : Fetcher) (defaults choices : Choices) (url : String) (w : World) (terminal : Terminal),
        fetch.Delivers url → (journal.on w).1.isOk = true →
        w.terminals[(choices.withDefaults defaults).terminal]? = some terminal → terminal.Calm →
        terminal.behaviour.attachable = true → terminal.behaviour.detachable = true →
        ((download fetch defaults choices url).on w).2.closes = w.closes + 1 := by
  intro every
  have delivers : Fetcher.Delivers (fun _ => pure ⟨none, fun _ => [], .works⟩) "http://a/" :=
    fun w => ⟨_, w, rfl, nofun, rfl, rfl⟩
  have closed := every _ {} { chunkSize? := some (some 0) } "http://a/"
    { World.fresh [] (.empty []) with journal? := some ⟨.info, []⟩ } (.fresh .healthy) delivers rfl rfl ⟨rfl, rfl⟩ rfl rfl
  exact absurd closed (by decide +kernel)

end Downloader
end MeteredDownload
