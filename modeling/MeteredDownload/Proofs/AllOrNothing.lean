import MeteredDownload.CommandLine
import MeteredDownload.Proofs.Classification
import MeteredDownload.Proofs.FileTree
import MeteredDownload.Proofs.Truncation

/-!
# All of a file or nothing

Where nothing is logged to a file (`World.Unlogged`), a run of the program leaves all files as they are up to the
moment at which the whole body has come (`World.Still`), and then it saves the body.  So its exit code tells what
became of the files: `CommandLine.Settles`.  All that is asked of the transport is that it touches neither the files
nor what is logged (`Http.Transport.Apart`).  A body that raises an interruption is not taken for one that fails: the
read is made again.
-/
set_option autoImplicit false
namespace MeteredDownload

open Log Files

/-! ## What leaves the files alone -/

namespace World

structure Unlogged (w : World) : Prop where
  setting : (w.settings.current w.environment).logging.file? = none
  files : ∀ j, w.journal? = some j → j.files = []

/-- Where nothing is logged to a file, that stays so, and all files stay as they are. -/
def Still (w after : World) : Prop := w.Unlogged → after.Unlogged ∧ after.tree = w.tree

theorem Still.refl (w : World) : w.Still w := fun unlogged => ⟨unlogged, rfl⟩

theorem Still.trans {first second third : World} (before : first.Still second) (after : second.Still third) :
    first.Still third := by
  intro unlogged
  obtain ⟨still, same⟩ := before unlogged
  obtain ⟨later, last⟩ := after still
  exact ⟨later, last.trans same⟩

theorem unlogged_of_fresh {w : World} (settings : w.settings = .empty) (unopened : w.journal? = none)
    (unset : w.environment.lookup "LOG_FILE" = none) : w.Unlogged := by
  refine ⟨?_, ?_⟩
  · rw [settings]
    exact unset
  · intro j there
    rw [unopened] at there
    cases there

theorem still_of_same {w after : World} (environment : after.environment = w.environment)
    (settings : after.settings = w.settings) (journal : after.journal? = w.journal?) (tree : after.tree = w.tree) :
    w.Still after := by
  intro unlogged
  refine ⟨⟨?_, ?_⟩, tree⟩
  · rw [environment, settings]
    exact unlogged.setting
  · rw [journal]
    exact unlogged.files

end World

/-- The transport leaves the settings, the log and the files as they are. -/
structure Http.Transport.Apart (transport : Http.Transport) : Prop where
  environment : ∀ client url (w : World), ((transport client url).on w).2.environment = w.environment
  settings : ∀ client url (w : World), ((transport client url).on w).2.settings = w.settings
  journal? : ∀ client url (w : World), ((transport client url).on w).2.journal? = w.journal?
  tree : ∀ client url (w : World), ((transport client url).on w).2.tree = w.tree

theorem Http.respond_apart (wire : Http.Wire) : Http.Transport.Apart (Http.respond wire) := by
  have asks : ∀ client url (w : World), Http.Asks w ((Http.respond wire client url).on w).2 :=
    fun client url => (Http.asking_respond wire client url).asks
  refine ⟨?_, ?_, ?_, ?_⟩
  · exact fun client url w => (asks client url w).same World.environment fun _ _ => rfl
  · exact fun client url w => (asks client url w).same World.settings fun _ _ => rfl
  · exact fun client url w => (asks client url w).same World.journal? fun _ _ => rfl
  · exact fun client url w => (asks client url w).same World.tree fun _ _ => rfl

namespace Program
open Downloader
variable {α β : Type}

theorem journal_of_unlogged {w : World} (unlogged : w.Unlogged) :
    ∃ j opened, journal.on w = (.ok j, opened) ∧ j.files = [] ∧ opened.Unlogged ∧ opened.tree = w.tree := by
  rw [journal_on]
  cases open? : w.journal? with
  | some j => exact ⟨j, w, rfl, unlogged.files j open?, unlogged, rfl⟩
  | none =>
    have loaded : (w.settings.load w.environment).current w.environment = w.settings.current w.environment := rfl
    dsimp only
    rw [loaded, Journal.ofSettings, unlogged.setting]
    refine ⟨_, _, rfl, rfl, ⟨?_, ?_⟩, rfl⟩
    · exact unlogged.setting
    · intro j there
      cases there
      rfl

theorem opens_of_unlogged {w : World} (unlogged : w.Unlogged) : (journal.on w).1.isOk = true := by
  obtain ⟨j, opened, opens, _⟩ := journal_of_unlogged unlogged
  rw [opens]
  rfl

theorem still_pure (a : α) : Within World.Still (pure a : Program α) := fun w => .refl w

theorem still_throw (reason : Value) : Within World.Still (throw reason : Program α) := fun w => .refl w

theorem still_fail_bind (failure : Failure) (f : α → Program β) :
    Within World.Still ((fail failure : Program α) >>= f) :=
  fun w => .refl w

theorem still_note (record : Record) : Within World.Still (note record) := by
  intro w unlogged
  obtain ⟨j, opened, opens, none, still, tree⟩ := journal_of_unlogged unlogged
  have rest : ∀ p : Program Unit, Within World.Still p →
      (p.on opened).2.Unlogged ∧ (p.on opened).2.tree = w.tree := by
    intro p leaves
    obtain ⟨later, same⟩ := leaves opened still
    exact ⟨later, same.trans tree⟩
  unfold note
  rw [on_bind, opens]
  apply rest
  dsimp only
  split
  · exact still_fail_bind _ _
  split
  · split
    · exact still_throw _
    · intro v
      have unwritten : j.writeFiles v.timestamp record v.tree = v.tree := by simp [Journal.writeFiles, none]
      exact World.still_of_same rfl rfl rfl unwritten
  · exact still_pure ()

theorem note_of_unlogged {w : World} (unlogged : w.Unlogged) (record : Record) (plain : record.IsPlain) :
    ∃ after, (note record).on w = (.ok (), after) ∧ after.Unlogged ∧ after.tree = w.tree := by
  obtain ⟨after, taken⟩ := note_of_opens (opens_of_unlogged unlogged) plain
  have still := still_note record w unlogged
  rw [taken] at still
  exact ⟨after, taken, still⟩

theorem complain_of_unlogged {w : World} (unlogged : w.Unlogged) (text : String) (reason : Value) :
    ∃ after, after.Unlogged ∧ after.tree = w.tree ∧ Program.on w (do
      note (.error text [("error", reason)])
      throw reason : Program α) = (.error reason, after) := by
  obtain ⟨after, noted, still, tree⟩ := note_of_unlogged unlogged (.error text [("error", reason)]) (.ofValues rfl rfl)
  refine ⟨after, still, tree, ?_⟩
  rw [on_bind, noted]
  rfl

theorem still_notes (records : Array Record) : Within World.Still (records.forM note) :=
  Within.forM .trans .refl still_note records

theorem still_ofExcept (outcome : Except Value α) : Within World.Still (ofExcept outcome) := by
  cases outcome with
  | error reason => exact still_throw reason
  | ok a => exact still_pure a

theorem still_wallTime : Within World.Still wallTime := fun _ => World.still_of_same rfl rfl rfl rfl

theorem still_transfer (choices : Choices) (source : Source) : Within World.Still (transfer choices source) := by
  intro w
  have begun : w.Still (settled choices source w) := World.still_of_same rfl rfl rfl rfl
  have rest : Within World.Still (do
      (result choices source w).display.records.forM note
      Program.ofExcept (result choices source w).outcome) :=
    Within.bind .trans (still_notes _) fun _ => still_ofExcept _
  exact begun.trans (rest (settled choices source w))

theorem still_fetch {transport : Http.Transport} (apart : transport.Apart) (client : Http.Client) (url : String) :
    Within World.Still (transport.fetch client url) := by
  have answered : Within World.Still (transport client url) := fun w =>
    World.still_of_same (apart.environment client url w) (apart.settings client url w) (apart.journal? client url w)
      (apart.tree client url w)
  have handled : ∀ reason : Value, Within World.Still (do
      note (.debug "Request failed" [("url", .text url), ("error", reason)])
      fail (.ofCause url reason) : Program Http.Response) :=
    fun reason => Within.bind .trans (still_note _) fun _ => still_throw _
  refine Within.bind .trans (still_note _) fun _ =>
    Within.bind .trans (Within.tryCatch .trans answered handled) fun response => ?_
  dsimp only
  split
  · exact Within.bind .trans (still_note _) fun _ => still_pure _
  · exact Within.bind .trans (still_note _) fun _ => still_throw _

theorem still_download {fetch : Fetcher} {url : String} (fetches : Within World.Still (fetch url))
    (defaults choices : Choices) : Within World.Still (download fetch defaults choices url) := by
  refine Within.bind .trans still_wallTime fun startTime => Within.bind .trans (still_note _) fun _ =>
    Within.tryCatch .trans ?_ fun reason => Within.bind .trans (still_note _) fun _ => still_throw _
  refine Within.bind .trans fetches fun source => Within.bind .trans (still_transfer _ _) fun store =>
    Within.bind .trans still_wallTime fun endTime => Within.bind .trans (still_note _) fun _ => still_pure _

end Program

/-! ## What came before a success -/

namespace Program
variable {α β : Type}

theorem ok_of_bind {p : Program α} {f : α → Program β} {w last : World} {b : β}
    (came : (p >>= f).on w = (.ok b, last)) : ∃ a next, p.on w = (.ok a, next) ∧ (f a).on next = (.ok b, last) := by
  rw [on_bind] at came
  revert came
  rcases p.on w with ⟨reason | a, next⟩
  · intro came
    cases came
  · exact fun came => ⟨a, next, rfl, came⟩

theorem ok_of_tryCatch {p : Program α} {handle : Value → Program α} {w last : World} {a : α}
    (fails : ∀ reason next, (handle reason).on next ≠ (.ok a, last)) (came : (tryCatch p handle).on w = (.ok a, last)) :
    p.on w = (.ok a, last) := by
  rw [on_tryCatch] at came
  revert came
  rcases p.on w with ⟨reason | b, next⟩
  · exact fun came => absurd came (fails reason next)
  · exact id

theorem ne_ok_of_throw {p : Program β} {reason : Value} {w last : World} {a : α} :
    (p >>= fun _ => (throw reason : Program α)).on w ≠ (.ok a, last) := by
  intro came
  obtain ⟨_, _, _, thrown⟩ := ok_of_bind came
  cases thrown

end Program

theorem Http.source_of_fetch {transport : Http.Transport} {client : Http.Client} {url : String} {w arrival : World}
    {source : Source} (came : (transport.fetch client url).on w = (.ok source, arrival)) :
    ∃ start response, (Program.note (.debug "Sending request" [("url", .text url)])).on w = (.ok (), start) ∧
      ((transport client url).on start).1 = .ok response ∧ Http.isSuccess response.status = true ∧
      source = .ofBody response.body .works := by
  obtain ⟨_, start, noted, came⟩ := Program.ok_of_bind came
  obtain ⟨response, after, answered, came⟩ := Program.ok_of_bind came
  have answer := Program.ok_of_tryCatch (fun _ _ => Program.ne_ok_of_throw) answered
  refine ⟨start, response, noted, by rw [answer], ?_⟩
  dsimp only at came
  by_cases success : Http.isSuccess response.status = true
  · rw [if_pos success] at came
    obtain ⟨_, _, _, given⟩ := Program.ok_of_bind came
    cases given
    exact ⟨success, rfl⟩
  · rw [if_neg success] at came
    exact absurd came Program.ne_ok_of_throw

theorem Downloader.source_of_download {fetch : Fetcher} {defaults choices : Choices} {url : String} {w last : World}
    {store : Store} (came : (download fetch defaults choices url).on w = (.ok store, last)) :
    ∃ source arrival, (fetch url).on (departure url w) = (.ok source, arrival) ∧
      (result (choices.withDefaults defaults) source arrival).outcome = .ok store := by
  obtain ⟨now, first, timed, came⟩ := Program.ok_of_bind came
  obtain ⟨_, start, noted, came⟩ := Program.ok_of_bind came
  have departed : departure url w = start := by
    rw [departure, Program.on_bind, timed]
    dsimp only
    rw [noted]
  have came := Program.ok_of_tryCatch (fun _ _ => Program.ne_ok_of_throw) came
  obtain ⟨source, arrival, fetched, came⟩ := Program.ok_of_bind came
  obtain ⟨whole, ended, transferred, came⟩ := Program.ok_of_bind came
  obtain ⟨_, _, _, came⟩ := Program.ok_of_bind came
  obtain ⟨_, _, _, came⟩ := Program.ok_of_bind came
  cases came
  refine ⟨source, arrival, departed ▸ fetched, ?_⟩
  have rest : (transfer (choices.withDefaults defaults) source).on arrival =
      Program.on (settled (choices.withDefaults defaults) source arrival) (do
        (result (choices.withDefaults defaults) source arrival).display.records.forM Program.note
        Program.ofExcept (result (choices.withDefaults defaults) source arrival).outcome) := rfl
  rw [rest] at transferred
  obtain ⟨_, _, _, came⟩ := Program.ok_of_bind transferred
  revert came
  cases (result (choices.withDefaults defaults) source arrival).outcome with
  | error reason =>
    intro came
    cases came
  | ok given =>
    intro came
    cases came
    rfl

/-! ## What cannot fail -/

namespace Program
variable {α β : Type}

def Smooth (p : Program α) : Prop :=
  ∀ w : World, w.Unlogged → ∃ a after, p.on w = (.ok a, after) ∧ after.Unlogged ∧ after.tree = w.tree

theorem smooth_pure (a : α) : Smooth (pure a : Program α) := fun w unlogged => ⟨a, w, rfl, unlogged, rfl⟩

theorem smooth_get : Smooth (get : Program World) := fun w unlogged => ⟨w, w, rfl, unlogged, rfl⟩

theorem Smooth.bind {p : Program α} {f : α → Program β} (first : Smooth p) (later : ∀ a, Smooth (f a)) :
    Smooth (p >>= f) := by
  intro w unlogged
  obtain ⟨a, next, came, still, tree⟩ := first w unlogged
  obtain ⟨b, after, ended, last, same⟩ := later a next still
  refine ⟨b, after, ?_, last, same.trans tree⟩
  rw [on_bind, came]
  exact ended

theorem smooth_note (record : Record) (plain : record.IsPlain) : Smooth (note record) := by
  intro w unlogged
  obtain ⟨after, taken, still⟩ := note_of_unlogged unlogged record plain
  exact ⟨(), after, taken, still⟩

theorem smooth_settings : Smooth settings :=
  fun _ unlogged => ⟨_, _, rfl, ⟨unlogged.setting, unlogged.files⟩, rfl⟩

theorem smooth_updateSettings {change : Settings → Settings} (logging : ∀ s, (change s).logging = s.logging) :
    Smooth (updateSettings change) := by
  intro _ unlogged
  refine ⟨(), _, rfl, ⟨?_, unlogged.files⟩, rfl⟩
  exact (congrArg LogSettings.file? (logging _)).trans unlogged.setting

theorem smooth_load (path? : Option String) : Smooth (Trust.load path?) := by
  unfold Trust.load
  split
  · exact smooth_pure _
  · exact smooth_pure _
  · refine smooth_get.bind fun _ => ?_
    split
    · exact (smooth_note _ (.ofValues rfl rfl)).bind fun _ => smooth_pure _
    · exact (smooth_note _ (.ofValues rfl rfl)).bind fun _ => smooth_pure _

theorem smooth_create : Smooth Http.Downloader.create :=
  smooth_settings.bind fun s => (smooth_load s.download.certificate?).bind fun _ => smooth_pure _

theorem smooth_configure (a : Arguments) : Smooth (CommandLine.configure a) := by
  refine smooth_settings.bind fun s => ?_
  split
  · exact smooth_pure ()
  · exact smooth_pure ()
  · exact smooth_updateSettings fun _ => rfl

end Program

/-! ## Saving a file -/

namespace Files
open Program

theorem ensureDirectory_on {w : World} (unlogged : w.Unlogged) (path : String) :
    ∃ after, after.Unlogged ∧ after.tree = (w.tree.makeDirectory path).1 ∧
      ((ensureDirectory path).on w = (.ok (), after) ∨
        ∃ reason, (ensureDirectory path).on w = (.error reason, after)) := by
  have made : World.Unlogged { w with tree := (w.tree.makeDirectory path).1 } := ⟨unlogged.setting, unlogged.files⟩
  unfold ensureDirectory
  rw [on_bind, on_get]
  dsimp only
  rw [on_bind, on_modify]
  dsimp only
  cases (w.tree.makeDirectory path).2 with
  | none =>
    obtain ⟨after, noted, still, tree⟩ :=
      note_of_unlogged made (.debug ("Directory ensured: " ++ path)) (.ofValues rfl rfl)
    exact ⟨after, still, tree, .inl noted⟩
  | some failure =>
    obtain ⟨after, still, tree, thrown⟩ :=
      complain_of_unlogged made ("Failed to create directory: " ++ path) failure
    exact ⟨after, still, tree, .inr ⟨failure, thrown⟩⟩

theorem saveFile_on {w : World} (unlogged : w.Unlogged) (path : String) (content : ByteArray) :
    ∃ after, after.Unlogged ∧
      ((saveFile path content).on w = (.ok (), after) ∧ FileTree.Saved path content w.tree after.tree ∨
        ∃ reason, (saveFile path content).on w = (.error reason, after)) := by
  obtain ⟨made, still, tree, ensured | ⟨reason, failed⟩⟩ := ensureDirectory_on unlogged (Journal.directoryPath path)
  · unfold saveFile
    rw [on_tryCatch, on_bind, ensured]
    dsimp only
    rw [on_bind]
    unfold writeContent
    rw [on_bind, on_get]
    dsimp only
    cases written : made.tree.writeFile path content with
    | error failure =>
      obtain ⟨after, later, _, thrown⟩ := complain_of_unlogged still ("Failed to write file: " ++ path) failure
      exact ⟨after, later, .inr ⟨failure, thrown⟩⟩
    | ok saved =>
      rw [tree] at written
      have kept : World.Unlogged { made with tree := saved } := ⟨still.setting, still.files⟩
      obtain ⟨after, noted, later, same⟩ := note_of_unlogged kept (.debug ("Wrote file: " ++ path)) (.ofValues rfl rfl)
      refine ⟨after, later, .inl ⟨?_, ?_⟩⟩
      · dsimp only
        rw [on_modify]
        dsimp only
        rw [noted]
      · rw [same]
        exact FileTree.saved_of_written written
  · obtain ⟨after, later, _, thrown⟩ := complain_of_unlogged still ("Failed to write file: " ++ path) reason
    refine ⟨after, later, .inr ⟨reason, ?_⟩⟩
    unfold saveFile
    rw [on_tryCatch, on_bind, failed]
    exact thrown

end Files

/-! ## A run of the program -/

namespace CommandLine
open Program

def downloader (a : Arguments) : Program Http.Downloader := do
  configure a
  Http.Downloader.create

def answer (transport : Http.Transport) (d : Http.Downloader) (url : String) (w : World) : Except Value Http.Response :=
  ((transport d.client url).on (Http.asked url (Downloader.departure url w))).1

/-- The first failure among the pieces of a body is one for good. -/
def FailsForGood (pieces : List Piece) : Prop :=
  ∃ reason, firstFailure? pieces = some reason ∧ reason.isInterrupted = false

/-- With exit code zero, the bytes that the download gave were saved; if it gave none, because there was no response
of success or the body of that failed for good, the exit code is one and all files are as they were. -/
structure Settles (transport : Http.Transport) (a : Arguments) (d : Http.Downloader) (before made : World)
    (code : UInt8) (after : World) : Prop where
  exit : code = 0 ∨ code = 1
  all : code = 0 → ∃ store last, (d.get transport {} a.url).on made = (.ok store, last) ∧
    FileTree.Saved (output a) store.cells before.tree after.tree
  nothing : (∀ store, ((d.get transport {} a.url).on made).1 ≠ .ok store) → code = 1 ∧ after.tree = before.tree
  refused : (∀ response, answer transport d a.url made = .ok response → Http.isSuccess response.status = true →
    FailsForGood response.pieces) → code = 1 ∧ after.tree = before.tree

theorem silent_create {w made : World} {d : Http.Downloader} (created : Http.Downloader.create.on w = (.ok d, made)) :
    d.defaults.listener? = none := by
  obtain ⟨s, _, _, created⟩ := ok_of_bind created
  obtain ⟨trust, _, _, created⟩ := ok_of_bind created
  cases created
  rfl

theorem result_of_failed {choices : Choices} (silent : choices.listener? = none) {response : Http.Response}
    (fails : FailsForGood response.pieces) (w : World) (store : Store) :
    (Downloader.result choices (.ofBody response.body .works) w).outcome ≠ .ok store := by
  intro came
  obtain ⟨reason, failed, final⟩ := fails
  let times : Timepieces := { w.times with useWall := choices.useWall }
  let terminal := w.terminals.getD choices.terminal (.fresh .silent)
  let options := choices.options w.allocates
  have run : (Transfer.run options (.ofBody response.body .works) times terminal).outcome = .ok store := came
  -- No read behind a failure for good is made.
  by_cases sound : options.Sound
  · obtain ⟨blockSize, sized⟩ := Option.isSome_iff_exists.mp sound.sized
    obtain ⟨capacity, sampled⟩ := Option.isSome_iff_exists.mp sound.sampled
    have positive : blockSize ≠ 0 := (Numeric.Binary64.eq_finite_of_positiveInteger? sized).2.ne'
    have unopposed : options.Unopposed := by
      intro listener given
      have none : options.listener? = none := silent
      rw [none] at given
      cases given
    rcases Transfer.follows_or_unread sized sampled unopposed (.ofBody response.body .works) times terminal with
      follows | ⟨_, failure, refused⟩
    · have pieces := followsPieces_of_follows positive (.inr rfl) follows
      rw [FollowsPieces, failed] at pieces
      simp only [final, Bool.false_eq_true, if_false] at pieces
      rw [run] at pieces
      cases pieces
    · rw [run] at refused
      cases refused
  · obtain ⟨failure, later, ended⟩ := Transfer.run_of_unsound sound (.ofBody response.body .works) times terminal
    rw [ended] at run
    cases run

theorem get_of_refused {transport : Http.Transport} {d : Http.Downloader} {url : String} {w : World}
    (unlogged : w.Unlogged) (silent : d.defaults.listener? = none)
    (refused : ∀ response, answer transport d url w = .ok response → Http.isSuccess response.status = true →
      FailsForGood response.pieces) (store : Store) : ((d.get transport {} url).on w).1 ≠ .ok store := by
  intro came
  have whole : (d.get transport {} url).on w = (.ok store, ((d.get transport {} url).on w).2) := by rw [← came]
  obtain ⟨source, arrival, fetched, given⟩ := Downloader.source_of_download whole
  obtain ⟨start, response, noted, answered, success, rfl⟩ := Http.source_of_fetch fetched
  obtain ⟨_, _, j, _, _, opened, _⟩ := Downloader.departs (opens_of_unlogged unlogged) url
  have asked : start = Http.asked url (Downloader.departure url w) := by
    have sent := note_on (journal_of_open opened) (.debug "Sending request" [("url", .text url)]) (.ofValues rfl rfl)
    rw [sent] at noted
    exact (congrArg Prod.snd noted).symm
  rw [asked] at answered
  exact result_of_failed silent (refused response answered success) arrival store given

theorem smooth_failed (url : String) (reason : Value) {w : World} (unlogged : w.Unlogged) :
    ∃ after, Program.on w (do
      if reason.isNotFound then note (.error ("Nothing found at " ++ url))
      return 1 : Program UInt8) = (.ok 1, after) ∧ after.tree = w.tree := by
  by_cases absent : reason.isNotFound = true
  · obtain ⟨after, noted, _, same⟩ :=
      note_of_unlogged unlogged (.error ("Nothing found at " ++ url)) (.ofValues rfl rfl)
    refine ⟨after, ?_, same⟩
    rw [if_pos absent, on_bind, noted]
    rfl
  · refine ⟨w, ?_, rfl⟩
    rw [if_neg absent]
    rfl

theorem fetchAndSave_on {transport : Http.Transport} (apart : transport.Apart) {a : Arguments} {d : Http.Downloader}
    {w made : World} (created : Http.Downloader.create.on w = (.ok d, made)) (unlogged : made.Unlogged) :
    (∃ store last after, (d.get transport {} a.url).on made = (.ok store, last) ∧
      (fetchAndSave transport a).on w = (.ok (), after) ∧
      FileTree.Saved (output a) store.cells made.tree after.tree) ∨
    ∃ reason after, (fetchAndSave transport a).on w = (.error reason, after) ∧ after.Unlogged ∧
      ((∀ store, ((d.get transport {} a.url).on made).1 ≠ .ok store) → after.tree = made.tree) := by
  -- The files are written to only when the download is over, so a failure of that leaves them as they were.
  have still : made.Still ((d.get transport {} a.url).on made).2 :=
    still_download (still_fetch apart d.client a.url) d.defaults {} made
  obtain ⟨later, tree⟩ := still unlogged
  unfold fetchAndSave
  dsimp only
  rw [on_bind, created]
  dsimp only
  rw [on_bind]
  rcases fetched : (d.get transport {} a.url).on made with ⟨reason | store, last⟩
  · rw [fetched] at later tree
    exact .inr ⟨reason, last, rfl, later, fun _ => tree⟩
  · rw [fetched] at later tree
    dsimp only at later tree ⊢
    obtain ⟨written, kept, ⟨saved, holds⟩ | ⟨reason, failed⟩⟩ := saveFile_on later (output a) store.cells
    · obtain ⟨after, noted, _, same⟩ := note_of_unlogged kept
        (.info ("Saved " ++ toString store.cells.size ++ " bytes to " ++ output a)) (.ofValues rfl rfl)
      refine .inl ⟨store, last, after, rfl, ?_, ?_⟩
      · rw [on_bind, saved]
        exact noted
      · rw [same, ← tree]
        exact holds
    · refine .inr ⟨reason, written, ?_, kept, fun none => absurd rfl (none store)⟩
      rw [on_bind, failed]

/-- Whatever it is asked for and whatever the transport gives, a run that logs to no file ends with exit code zero or
one.  It saves what it has downloaded, or leaves all files as they were. -/
theorem run_all_or_nothing (transport : Http.Transport) (apart : transport.Apart) (arguments : List String) (w : World)
    (begins : w.settings = .empty ∧ w.journal? = none) (unset : w.environment.lookup "LOG_FILE" = none) :
    ∃ code after, (run transport arguments).on w = (.ok code, after) ∧
      match Arguments.parse? arguments with
      | none => code = 1 ∧ after.tree = w.tree
      | some a => ∃ d made, (downloader a).on w = (.ok d, made) ∧ Settles transport a d w made code after := by
  have unlogged := World.unlogged_of_fresh begins.1 begins.2 unset
  unfold run
  cases Arguments.parse? arguments with
  | none => exact ⟨1, _, rfl, rfl, rfl⟩
  | some a =>
    obtain ⟨_, configured, ready, settled, first⟩ := smooth_configure a w unlogged
    obtain ⟨d, made, created, still, second⟩ := smooth_create configured settled
    have tree : made.tree = w.tree := second.trans first
    have prepared : (downloader a).on w = (.ok d, made) := by
      unfold downloader
      rw [on_bind, ready]
      exact created
    have silent := silent_create created
    dsimp only
    rw [on_bind, ready]
    dsimp only
    rw [on_tryCatch, on_bind]
    -- The download was saved, or the run has failed; then files have changed only if bytes came.
    rcases fetchAndSave_on apart created still with
      ⟨store, last, after, fetched, done, saved⟩ | ⟨reason, failed, ended, later, same⟩
    · rw [done]
      rw [tree] at saved
      have came : ¬ ∀ store, ((d.get transport {} a.url).on made).1 ≠ .ok store :=
        fun none => none store (by rw [fetched])
      refine ⟨0, after, rfl, d, made, prepared, .inl rfl, fun _ => ⟨store, last, fetched, saved⟩, ?_, ?_⟩
      · exact fun none => absurd none came
      · exact fun refused => absurd (get_of_refused still silent refused) came
    · obtain ⟨after, exits, kept⟩ := smooth_failed a.url reason later
      have nothing : (∀ store, ((d.get transport {} a.url).on made).1 ≠ .ok store) → after.tree = w.tree :=
        fun none => (kept.trans (same none)).trans tree
      rw [ended]
      refine ⟨1, after, exits, d, made, prepared, .inr rfl, ?_, ?_, ?_⟩
      · intro zero
        exact absurd zero (by decide)
      · exact fun none => ⟨rfl, nothing none⟩
      · exact fun refused => ⟨rfl, nothing (get_of_refused still silent refused)⟩

/-- A whole body takes the place of what was in the file that a link leads to; one that fails leaves it. -/
theorem run_all_or_nothing_of_link :
    let tree : FileTree := ⟨["home"], [(["home"], .directory), (["home", "z"], .file ⟨#[9]⟩), (["home", "y"], .link "z")]⟩
    let w := World.fresh [("DOWNLOAD_CHUNK_SIZE", "4")] tree
    let response (pieces : List Piece) : Http.Response := ⟨200, "OK", [("Content-Length", "2")], pieces⟩
    let transport : Http.Transport := fun _ url => pure (response (if url = "http://a/x" then [⟨0, .ok ⟨#[1, 2]⟩⟩]
      else [⟨0, .ok ⟨#[1]⟩⟩, ⟨0, .error (.error .aborted)⟩]))
    (∃ after, (run transport ["http://a/x", "y"]).on w = (.ok 0, after) ∧
      FileTree.Saved "y" ⟨#[1, 2]⟩ tree after.tree) ∧
    ∃ after, (run transport ["http://a/v", "y"]).on w = (.ok 1, after) ∧ after.tree = tree := by
  intro tree w response transport
  have apart : transport.Apart := ⟨fun _ _ _ => rfl, fun _ _ _ => rfl, fun _ _ _ => rfl, fun _ _ _ => rfl⟩
  refine ⟨?_, ?_⟩
  · have parsed : Arguments.parse? ["http://a/x", "y"] = some ⟨"http://a/x", some "y", none⟩ := by decide +kernel
    obtain ⟨code, after, ended, settles⟩ := run_all_or_nothing transport apart ["http://a/x", "y"] w ⟨rfl, rfl⟩ rfl
    rw [parsed] at settles
    obtain ⟨d, made, _, settles⟩ := settles
    have success : ((run transport ["http://a/x", "y"]).on w).1.toOption = some 0 := by decide +kernel
    have content : (((run transport ["http://a/x", "y"]).on w).2.tree.readFile "y").toOption = some ⟨#[1, 2]⟩ := by
      decide +kernel
    rw [ended] at success content
    cases success
    obtain ⟨store, _, _, saved⟩ := settles.all rfl
    have reads : after.tree.readFile "y" = .ok store.cells := saved.1
    dsimp only at content
    rw [reads] at content
    have same : store.cells = ⟨#[1, 2]⟩ := Option.some.inj content
    exact ⟨after, ended, same ▸ saved⟩
  · have parsed : Arguments.parse? ["http://a/v", "y"] = some ⟨"http://a/v", some "y", none⟩ := by decide +kernel
    obtain ⟨code, after, ended, settles⟩ := run_all_or_nothing transport apart ["http://a/v", "y"] w ⟨rfl, rfl⟩ rfl
    rw [parsed] at settles
    obtain ⟨d, made, _, settles⟩ := settles
    obtain ⟨failed, kept⟩ := settles.refused fun given came _ => by
      cases came
      exact ⟨_, rfl, rfl⟩
    exact ⟨after, failed ▸ ended, kept⟩

/-- A body that raises an interruption does not make every run fail: what came before it is saved. -/
theorem not_nothing_of_every_failure :
    ¬ ∀ (transport : Http.Transport) (w : World) (a : Arguments) (d : Http.Downloader) (made after : World)
        (arguments : List String) (code : UInt8), transport.Apart → w.settings = .empty ∧ w.journal? = none →
        w.environment.lookup "LOG_FILE" = none → Arguments.parse? arguments = some a →
        (downloader a).on w = (.ok d, made) → (run transport arguments).on w = (.ok code, after) →
        (∀ response, answer transport d a.url made = .ok response → Http.isSuccess response.status = true →
          firstFailure? response.pieces ≠ none) → code = 1 ∧ after.tree = w.tree := by
  intro every
  let w := World.fresh [("DOWNLOAD_CHUNK_SIZE", "4")] (.empty [])
  let interrupted : Value := .error (.raised .error "interrupted" none (.text "EINTR"))
  let transport : Http.Transport := fun _ _ => pure
    ⟨200, "OK", [("Content-Length", "3")], [⟨0, .ok ⟨#[97, 98, 99]⟩⟩, ⟨0, .error interrupted⟩, ⟨0, .ok ⟨#[100]⟩⟩]⟩
  have parsed : Arguments.parse? ["http://a/x", "y"] = some ⟨"http://a/x", some "y", none⟩ := by decide +kernel
  have apart : transport.Apart := ⟨fun _ _ _ => rfl, fun _ _ _ => rfl, fun _ _ _ => rfl, fun _ _ _ => rfl⟩
  have success : ((run transport ["http://a/x", "y"]).on w).1.toOption = some 0 := by decide +kernel
  have prepared : ((downloader ⟨"http://a/x", some "y", none⟩).on w).1.isOk = true := by decide +kernel
  rcases started : (downloader ⟨"http://a/x", some "y", none⟩).on w with ⟨reason | d, made⟩
  · rw [started] at prepared
    cases prepared
  rcases ended : (run transport ["http://a/x", "y"]).on w with ⟨reason | code, after⟩
  · rw [ended] at success
    cases success
  rw [ended] at success
  cases success
  have failed := every transport w _ d made after _ 0 apart ⟨rfl, rfl⟩ rfl parsed started ended
    fun response came _ => by
    cases came
    exact Option.some_ne_none interrupted
  exact absurd failed.1 (by decide)

end CommandLine
end MeteredDownload
