import MeteredDownload.Http.Download
import MeteredDownload.Proofs.Body
import MeteredDownload.Proofs.Network
import MeteredDownload.Proofs.Notes

/-!
# How downloads fail

A download fails before its transfer if the journal cannot be opened, if there is no response, or if the status of
the response is none of success; each of these has its own failure, and nothing is seen of it at a terminal or by a
listener (`World.Quiet`).  With a response of success it comes to what the transfer of its body comes to, and a
read that fails for good fails the download as it is.  All this holds of every transport that keeps to its own
(`Http.Transport.Steady`), and one that sends requests over a wire does (`Http.respond_steady`).
-/
set_option autoImplicit false
namespace MeteredDownload

open Numeric Report Log

namespace World

/-- No terminal was used, no listener was told of a snapshot, and no source was closed. -/
structure Quiet (w after : World) : Prop where
  terminals : after.terminals = w.terminals
  heard : after.heard = w.heard
  closes : after.closes = w.closes

theorem Quiet.refl (w : World) : w.Quiet w := ⟨rfl, rfl, rfl⟩

theorem Quiet.trans {first second third : World} (before : first.Quiet second) (after : second.Quiet third) :
    first.Quiet third :=
  ⟨after.terminals.trans before.terminals, after.heard.trans before.heard, after.closes.trans before.closes⟩

theorem Noted.quiet {w after : World} (noted : w.Noted after) : w.Quiet after := by
  have terminals := congrArg World.terminals noted
  have heard := congrArg World.heard noted
  have closes := congrArg World.closes noted
  exact ⟨terminals, heard, closes⟩

theorem quiet_journal (w : World) : w.Quiet (Program.journal.on w).2 := by
  rw [Downloader.journal_on]
  dsimp only
  split
  · exact .refl w
  · split
    · exact ⟨rfl, rfl, rfl⟩
    · exact ⟨rfl, rfl, rfl⟩

theorem requests_journal (w : World) : (Program.journal.on w).2.requests = w.requests := by
  rw [Downloader.journal_on]
  dsimp only
  split
  · rfl
  · split
    · rfl
    · rfl

end World

/-! ## The end of a download by what the fetcher gives -/

namespace Downloader
open Program

section Download
variable {w : World} {url : String} {fetch : Fetcher} {j : Journal}

theorem transfer_on (opened : w.journal? = some j) (choices : Choices) (source : Source) :
    ∃ after, (transfer choices source).on w = ((result choices source w).outcome, after) ∧
      (settled choices source w).Noted after := by
  have plain : (result choices source w).display.Plain := Transfer.plain_run _ _ _ _
  have still : (settled choices source w).journal? = some j := opened
  obtain ⟨after, notes, noted⟩ := notes_on still (result choices source w).display.records plain
  refine ⟨after, ?_, noted⟩
  have rest : (transfer choices source).on w = Program.on (settled choices source w) (do
      (result choices source w).display.records.forM note
      Program.ofExcept (result choices source w).outcome) := rfl
  rw [rest, on_bind, notes]
  cases (result choices source w).outcome with
  | ok store => rfl
  | error reason => rfl

theorem departs (opens : (journal.on w).1.isOk = true) (url : String) :
    ∃ now first j, wallTime.on w = (.ok now, first) ∧
      (note (.info "Starting download" [("url", .text url)])).on first = (.ok (), departure url w) ∧
      (departure url w).journal? = some j ∧ w.Quiet (departure url w) := by
  obtain ⟨now, first, timed, same, calm⟩ : ∃ now first, wallTime.on w = (.ok now, first) ∧
      (journal.on first).1 = (journal.on w).1 ∧ w.Quiet first :=
    ⟨_, _, rfl, journal_on_times w _, ⟨rfl, rfl, rfl⟩⟩
  have quiet := calm.trans (World.quiet_journal first)
  rw [← same] at opens
  rcases opening : journal.on first with ⟨reason | j, opened⟩
  · rw [opening] at opens
    cases opens
  · rw [opening] at quiet
    have noted := note_on opening (.info "Starting download" [("url", .text url)]) (.ofValues rfl rfl)
    have kept := World.noted_noted (.info "Starting download" [("url", .text url)]) opened
    have there : departure url w = opened.noted (.info "Starting download" [("url", .text url)]) := by
      rw [departure, on_bind, timed]
      dsimp only
      rw [noted]
    rw [there]
    exact ⟨now, first, j, timed, noted, kept.journal?.trans (open_of_journal opening), quiet.trans kept.quiet⟩

theorem download_of_refused (opens : (journal.on w).1.isOk = true) {reason : Value} {refused : World}
    (failed : (fetch url).on (departure url w) = (.error reason, refused)) (still : refused.journal? = some j)
    (defaults choices : Choices) :
    (download fetch defaults choices url).on w = (.error reason,
      refused.noted (.error "Download failed" [("url", .text url), ("error", reason)])) := by
  obtain ⟨now, first, _, timed, noted, _, _⟩ := departs opens url
  have last := note_on (journal_of_open still)
    (.error "Download failed" [("url", .text url), ("error", reason)]) (.ofValues rfl rfl)
  unfold download
  rw [on_bind, timed]
  dsimp only
  rw [on_bind, noted]
  dsimp only
  rw [on_tryCatch, on_bind, failed]
  dsimp only
  rw [on_bind, last]
  rfl

theorem download_of_delivered (opens : (journal.on w).1.isOk = true) {source : Source} {arrival : World}
    (came : (fetch url).on (departure url w) = (.ok source, arrival)) (still : arrival.journal? = some j)
    (defaults choices : Choices) :
    ∃ after, (download fetch defaults choices url).on w =
      ((result (choices.withDefaults defaults) source arrival).outcome, after) := by
  obtain ⟨now, first, _, timed, noted, _, _⟩ := departs opens url
  obtain ⟨ended, transferred, rest⟩ := transfer_on still (choices.withDefaults defaults) source
  have later : ended.journal? = some j := rest.journal?.trans still
  unfold download
  rw [on_bind, timed]
  dsimp only
  rw [on_bind, noted]
  dsimp only
  rw [on_tryCatch, on_bind, came]
  dsimp only
  rw [on_bind, transferred]
  cases (result (choices.withDefaults defaults) source arrival).outcome with
  | error reason =>
    have last := note_on (journal_of_open later)
      (.error "Download failed" [("url", .text url), ("error", reason)]) (.ofValues rfl rfl)
    dsimp only
    rw [on_bind, last]
    exact ⟨_, rfl⟩
  | ok store =>
    obtain ⟨time, clocked, told, kept⟩ : ∃ time clocked, wallTime.on ended = (.ok time, clocked) ∧
        clocked.journal? = some j := ⟨_, _, rfl, later⟩
    have last := note_on (journal_of_open kept)
      (.info "Download completed" [("url", .text url), ("size", .number (.ofNat store.cells.size)),
        ("duration", .number (time - now))]) (.ofValues rfl rfl)
    dsimp only
    rw [on_bind, told]
    dsimp only
    rw [on_bind, last]
    exact ⟨_, rfl⟩

theorem download_refuses {reason : Value} (shut : (journal.on w).1 = .error reason) (fetch : Fetcher)
    (defaults choices : Choices) (url : String) :
    ∃ after, (download fetch defaults choices url).on w = (.error reason, after) ∧ w.Quiet after ∧
      after.requests = w.requests := by
  obtain ⟨now, first, timed, same, calm, asked⟩ : ∃ now first, wallTime.on w = (.ok now, first) ∧
      (journal.on first).1 = (journal.on w).1 ∧ w.Quiet first ∧ first.requests = w.requests :=
    ⟨_, _, rfl, journal_on_times w _, ⟨rfl, rfl, rfl⟩, rfl⟩
  have quiet := calm.trans (World.quiet_journal first)
  have requests := (World.requests_journal first).trans asked
  rw [← same] at shut
  rcases opening : journal.on first with ⟨other | j, after⟩
  · rw [opening] at shut quiet requests
    cases shut
    refine ⟨after, ?_, quiet, requests⟩
    unfold download
    rw [on_bind, timed]
    dsimp only
    rw [on_bind, note, on_bind, opening]
  · rw [opening] at shut
    cases shut

end Download
end Downloader

/-! ## Reads that fail -/

def TransferResult.PassesFailures {κ : Type} (reads : List ReadStep) (result : TransferResult κ) : Prop :=
  ∀ (i : Nat) (step : ReadStep) (reason : Value), i < result.visits.size → reads[i]? = some step →
    step.outcome = .error reason → reason.isInterrupted = false → result.outcome = .error reason

namespace Transfer
variable {κ : Type} [Clock κ]

theorem Ends.outcome_of_failed {t : Transfer κ} {step : ReadStep} {rest : List ReadStep} {reading : Reading κ}
    {reason : Value} (ends : t.Ends (step :: rest) reading) (failed : step.outcome = .error reason)
    (final : reason.isInterrupted = false) : reading.outcome = .error reason := by
  have stop := ReadStep.goesOn_of_failed failed final
  cases ends with
  | whole _ _ _ _ last => simp [ReadStep.isEnd, failed] at last
  | failed _ _ other _ =>
    rw [failed] at other
    cases other
    rfl
  | opposed _ _ on _ =>
    rw [stop] at on
    cases on

theorem run_passes_failures (options : TransferOptions) (source : Source) (clock : κ) (terminal : Terminal)
    {blockSize : Nat} (sized : options.chunkSize.positiveInteger? = some blockSize) :
    (run options source clock terminal).PassesFailures (source.reads blockSize) := by
  intro i step reason made here failed final
  by_cases sound : options.Sound
  · obtain ⟨capacity, sampled⟩ := Option.isSome_iff_exists.mp sound.sampled
    rw [run_of_sound sized sampled] at made ⊢
    rcases (opened options source.announced? clock terminal blockSize capacity).reading_course source with
      ⟨failure, refused⟩ | ⟨through, rest, course⟩
    · have unread : ((opened options source.announced? clock terminal blockSize capacity).reading
          source).visits.size = 0 := by rw [refused]; rfl
      exact absurd (Nat.lt_of_lt_of_eq made unread) (Nat.not_lt_zero i)
    -- All reads but the last that was made let the transfer go on, and a failure for good does not.
    · have visits := congrArg List.length course.visits
      have within : i ≤ through.length := by
        have bound : i < ((opened options source.announced? clock terminal blockSize capacity).reading
          source).visits.size := made
        rw [List.length_append, length_stations, Array.length_toList] at visits
        simp only [List.length_nil, Nat.zero_add] at visits
        omega
      have parts : source.reads blockSize = through ++ rest := course.parts
      rw [parts] at here
      rcases Nat.lt_or_eq_of_le within with before | last
      · rw [List.getElem?_append_left before] at here
        have on := course.goes.goesOn_of_mem (List.mem_of_getElem? here)
        rw [ReadStep.goesOn_of_failed failed final] at on
        cases on
      · rw [last, List.getElem?_append_right (Nat.le_refl _), Nat.sub_self] at here
        obtain ⟨others, rfl⟩ : ∃ others, rest = step :: others := by
          cases rest with
          | nil => cases here
          | cons first others =>
            cases here
            exact ⟨others, rfl⟩
        exact course.ends.outcome_of_failed failed final
  · obtain ⟨failure, later, ended⟩ := run_of_unsound sound source clock terminal
    rw [ended] at made
    exact absurd made (Nat.not_lt_zero i)

end Transfer

/-! ## What a fetcher makes of a response -/

namespace Http
open Program

/-- What is taken of a transport: it fails with reasons for which there are texts, and it keeps to its own. -/
structure Transport.Steady (transport : Transport) (client : Client) (url : String) : Prop where
  hasText : ∀ (w : World) (reason : Value), ((transport client url).on w).1 = .error reason → reason.hasText = true
  quiet : ∀ w : World, w.Quiet ((transport client url).on w).2
  journal? : ∀ w : World, ((transport client url).on w).2.journal? = w.journal?

def asked (url : String) (w : World) : World := w.noted (.debug "Sending request" [("url", .text url)])

section Fetch
variable {transport : Transport} {client : Client} {url : String} {w : World} {j : Journal}

theorem fetch_of_refused (steady : transport.Steady client url) (opened : w.journal? = some j) {reason : Value}
    (refused : ((transport client url).on (asked url w)).1 = .error reason) :
    ∃ after, (transport.fetch client url).on w = (.error (.error (.transfer url none reason)), after) ∧
      after.journal? = some j ∧ w.Quiet after := by
  have sent := note_on (journal_of_open opened) (.debug "Sending request" [("url", .text url)]) (.ofValues rfl rfl)
  have start := World.noted_noted (.debug "Sending request" [("url", .text url)]) w
  have told := steady.hasText _ _ refused
  have quiet := steady.quiet (asked url w)
  have still := steady.journal? (asked url w)
  unfold Transport.fetch
  rw [on_bind, sent]
  dsimp only
  rw [on_bind, on_tryCatch]
  revert refused quiet still
  unfold asked
  rcases (transport client url).on _ with ⟨other | response, after⟩
  · intro failed calm same
    cases failed
    -- The transport has left the journal open, so that its failure can be noted.
    have kept : after.journal? = some j := same.trans (start.journal?.trans opened)
    have last := note_on (journal_of_open kept)
      (.debug "Request failed" [("url", .text url), ("error", reason)]) (.ofValues rfl rfl)
    have ended := World.noted_noted (.debug "Request failed" [("url", .text url), ("error", reason)]) after
    refine ⟨_, ?_, ended.journal?.trans kept, (start.quiet.trans calm).trans ended.quiet⟩
    dsimp only
    rw [on_bind, last]
    dsimp only
    rw [on_fail, Failure.ofCause, if_pos told]
  · intro failed
    cases failed

theorem fetch_of_response (steady : transport.Steady client url) (opened : w.journal? = some j)
    {response : Response} (came : ((transport client url).on (asked url w)).1 = .ok response) :
    ∃ after, (transport.fetch client url).on w =
      (if isSuccess response.status then .ok (.ofBody response.body .works)
        else .error (.error (.ofStatus url response.status response.reason)), after) ∧
      after.journal? = some j ∧ w.Quiet after := by
  have sent := note_on (journal_of_open opened) (.debug "Sending request" [("url", .text url)]) (.ofValues rfl rfl)
  have start := World.noted_noted (.debug "Sending request" [("url", .text url)]) w
  have quiet := steady.quiet (asked url w)
  have still := steady.journal? (asked url w)
  unfold Transport.fetch
  rw [on_bind, sent]
  dsimp only
  rw [on_bind, on_tryCatch]
  revert came quiet still
  unfold asked
  rcases (transport client url).on _ with ⟨reason | other, after⟩
  · intro failed
    cases failed
  · intro came calm same
    cases came
    have kept : after.journal? = some j := same.trans (start.journal?.trans opened)
    -- Whatever the status is, one note follows, and it changes neither the journal nor what is quiet.
    have ends : ∀ record : Record, record.IsPlain → (note record).on after = (.ok (), after.noted record) ∧
        (after.noted record).journal? = some j ∧ w.Quiet (after.noted record) := by
      intro record plain
      have ended := World.noted_noted record after
      exact ⟨note_on (journal_of_open kept) record plain, ended.journal?.trans kept,
        (start.quiet.trans calm).trans ended.quiet⟩
    dsimp only
    by_cases success : isSuccess response.status = true
    · obtain ⟨last, journal, ended⟩ := ends (.debug "Response received"
        [("url", .text url), ("status", .number (.ofNat response.status)),
          ("contentLength", (response.announced?.map Value.number).getD .undefined)]) (.ofValues rfl rfl)
      rw [if_pos success, if_pos success, on_bind, last]
      exact ⟨_, rfl, journal, ended⟩
    · obtain ⟨last, journal, ended⟩ := ends (.debug "Request rejected"
        [("url", .text url), ("status", .number (.ofNat response.status))]) (.ofValues rfl rfl)
      rw [if_neg success, if_neg success, on_bind, last]
      exact ⟨_, rfl, journal, ended⟩

end Fetch

theorem Asks.quiet {w after : World} (asks : Asks w after) : w.Quiet after :=
  ⟨asks.same World.terminals fun _ _ => rfl, asks.same World.heard fun _ _ => rfl,
    asks.same World.closes fun _ _ => rfl⟩

theorem Asking.steady {transport : Transport} {client : Client} {url : String}
    (asking : Asking (transport client url)) : transport.Steady client url := by
  refine ⟨?_, fun w => (asking.asks w).quiet, fun w => (asking.asks w).same World.journal? fun _ _ => rfl⟩
  intro w reason failed
  obtain ⟨failure, rfl⟩ := asking.fails w reason failed
  rfl

theorem respond_steady (wire : Wire) (client : Client) (url : String) : Transport.Steady (respond wire) client url :=
  (asking_respond wire client url).steady

def Response.source (response : Response) : Source :=
  .ofBody (.ofPieces .stream ((header? "content-length" response.headers).bind contentLength?) response.pieces) .works

/-- A download fails as the journal does, if that cannot be opened; then as its transport does, with the reason for
which that failed as the cause; then by the status, if it is none of success.  None of this is seen at a terminal or
by a listener.  With a status of success, all depends on the transfer of the body, and no read that fails for good
is taken for anything else. -/
theorem download_classifies (transport : Transport) (client : Client) (defaults choices : Choices) (url : String)
    (w : World) (steady : transport.Steady client url) :
    let all := choices.withDefaults defaults
    let start := Downloader.departure url w
    let answer := ((transport client url).on (asked url start)).1
    let ended := (Downloader.download (transport.fetch client) defaults choices url).on w
    (∀ reason, (journal.on w).1 = .error reason →
      ended.1 = .error reason ∧ w.Quiet ended.2 ∧ ended.2.requests = w.requests) ∧
    ((journal.on w).1.isOk = true →
      (∀ cause, answer = .error cause →
        ended.1 = .error (.error (.transfer url none cause)) ∧ w.Quiet ended.2) ∧
      (∀ response, answer = .ok response → isSuccess response.status = false →
        ended.1 = .error (.error (if response.status = 404 then .notFound url
          else .transfer url (some ⟨.ofNat response.status, some response.reason⟩) .undefined)) ∧
        w.Quiet ended.2) ∧
      (∀ response, answer = .ok response → isSuccess response.status = true →
        ∃ arrival, (transport.fetch client url).on start = (.ok response.source, arrival) ∧ w.Quiet arrival ∧
          ended.1 = (Downloader.result all response.source arrival).outcome ∧
          ∀ blockSize, (all.options arrival.allocates).chunkSize.positiveInteger? = some blockSize →
            (Downloader.result all response.source arrival).PassesFailures (response.source.reads blockSize))) := by
  intro all start answer ended
  refine ⟨?_, ?_⟩
  · intro reason shut
    obtain ⟨after, same, quiet, requests⟩ :=
      Downloader.download_refuses shut (transport.fetch client) defaults choices url
    have there : ended = (.error reason, after) := same
    rw [there]
    exact ⟨rfl, quiet, requests⟩
  · intro opens
    obtain ⟨_, _, j, _, _, opened, departed⟩ := Downloader.departs opens url
    -- The first two refusals end in the same way: the failure of the fetcher is noted and thrown on.
    have refuses : ∀ (failure : Failure) (after : World),
        (transport.fetch client url).on start = (.error (.error failure), after) → after.journal? = some j →
        start.Quiet after → ended.1 = .error (.error failure) ∧ w.Quiet ended.2 := by
      intro failure after failed still quiet
      have there : ended = _ := Downloader.download_of_refused opens failed still defaults choices
      rw [there]
      exact ⟨rfl, (departed.trans quiet).trans (World.noted_noted _ after).quiet⟩
    refine ⟨?_, ?_, ?_⟩
    · intro cause refused
      obtain ⟨after, failed, still, quiet⟩ := fetch_of_refused steady opened refused
      exact refuses _ after failed still quiet
    · intro response came unwanted
      obtain ⟨after, failed, still, quiet⟩ := fetch_of_response steady opened came
      rw [unwanted] at failed
      exact refuses _ after failed still quiet
    · intro response came success
      obtain ⟨arrival, fetched, still, quiet⟩ := fetch_of_response steady opened came
      rw [success] at fetched
      obtain ⟨after, same⟩ := Downloader.download_of_delivered opens fetched still defaults choices
      have there : ended = ((Downloader.result all response.source arrival).outcome, after) := same
      refine ⟨arrival, fetched, departed.trans quiet, by rw [there], ?_⟩
      intro blockSize sized
      exact Transfer.run_passes_failures _ _ _ _ sized

def refusesUrl (input : String) : Except Value Response → Bool
  | .error (.error (.invalidUrl text none)) => decide (text = input)
  | _ => false

theorem eq_of_refusesUrl {input : String} {answer : Except Value Response} (refuses : refusesUrl input answer = true) :
    answer = .error (.error (.invalidUrl input none)) := by
  unfold refusesUrl at refuses
  split at refuses
  · next text => rw [of_decide_eq_true refuses]
  · cases refuses

/-- The proxy for the request is no URL: there is no response, and that is the cause of the failure. -/
theorem download_classifies_unusable_proxy :
    let w : World := { World.fresh [("http_proxy", "http://[")] (.empty []) with journal? := some ⟨.info, []⟩ }
    let client : Client := ⟨"agent", .usual⟩
    let wire : Wire := fun _ _ => .ok ⟨200, "OK", [], []⟩
    let ended := (Downloader.download (Transport.fetch (respond wire) client) {} {} "http://a/").on w
    ended.1 = .error (.error (.transfer "http://a/" none (.error (.invalidUrl "http://[" none)))) ∧
      w.Quiet ended.2 := by
  intro w client wire ended
  have opened : (journal.on w).1.isOk = true := rfl
  have classified := (download_classifies (respond wire) client {} {} "http://a/" w
    (respond_steady wire client "http://a/")).2 opened
  exact classified.1 _ (eq_of_refusesUrl (by decide +kernel))

/-- Where the directory of the log file cannot be made, a download of what is no URL fails for that, and not for want
of a response; and a read that is interrupted, made again by the transfer, does not fail the download. -/
theorem not_classified_of_every_world :
    (¬ ∀ (wire : Wire) (client : Client) (url : String) (w : World), Url.parse? url = none →
        ∃ cause, ((Downloader.download (Transport.fetch (respond wire) client) {} {} url).on w).1 =
          .error (.error (.transfer url none cause))) ∧
      ¬ ∀ (transport : Transport) (client : Client) (url : String) (w : World) (response : Response) (reason : Value),
        transport.Steady client url → (journal.on w).1.isOk = true →
        ((transport client url).on (asked url (Downloader.departure url w))).1 = .ok response →
        isSuccess response.status = true → firstFailure? response.pieces = some reason →
        ((Downloader.download (transport.fetch client) {} {} url).on w).1 = .error reason := by
  refine ⟨?_, ?_⟩
  · intro every
    let tree : Files.FileTree := ⟨[], [(["f"], .file .empty)]⟩
    let wire : Wire := fun _ _ => .ok ⟨200, "OK", [], []⟩
    obtain ⟨cause, same⟩ :=
      every wire ⟨"agent", .usual⟩ "" (World.fresh [("LOG_FILE", "f/d/x.log")] tree) (by decide +kernel)
    have other : (match ((Downloader.download (Transport.fetch (respond wire) ⟨"agent", .usual⟩) {} {} "").on
        (World.fresh [("LOG_FILE", "f/d/x.log")] tree)).1 with
      | .error reason => reason.isTransfer
      | .ok _ => false) = false := by decide +kernel
    rw [same] at other
    cases other
  · intro every
    let interrupted : Value := .error (.raised .error "interrupted" none (.text "EINTR"))
    let response : Response := ⟨200, "OK", [], [⟨0, .error interrupted⟩]⟩
    let w : World := { World.fresh [] (.empty []) with journal? := some ⟨.info, []⟩ }
    let transport : Transport := fun _ _ => pure response
    have steady : transport.Steady ⟨"agent", .usual⟩ "http://a/" := (asking_pure response).steady
    have failed := every transport ⟨"agent", .usual⟩ "http://a/" w response interrupted steady rfl rfl rfl rfl
    have whole : ((Downloader.download (transport.fetch ⟨"agent", .usual⟩) {} {}
        "http://a/").on w).1.isOk = true := by decide +kernel
    rw [failed] at whole
    cases whole

end Http

end MeteredDownload
