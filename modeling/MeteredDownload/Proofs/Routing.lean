import MeteredDownload.Proofs.Contents
import MeteredDownload.Proofs.Notes

/-!
# Where records go

A logger has a level and at most one file (`Log.InForce`).  Both can be changed at any time, and each record goes to
the file that is in use when it is noted, if the level of that moment admits it.  So what a file holds in the end is
what it held before and, behind that, the lines that were sent there; no line is sent to two files
(`Log.Course.Routed`).  A call that fails, because there is no text for what it is to show, logs nothing, and the record
of an exception is withheld from every file (`Log.takes_iff`).

A call that names another file makes the directory of that file first.  While this is being done other calls can be
made, so the two halves of such a call are acts of their own (`Log.setLogFile_on`).
-/
set_option autoImplicit false
namespace MeteredDownload.Log

open Files

/-! ## The halves of a call that names another file -/

namespace Journal

def prepare (path : String) (j : Journal) (t : FileTree) : FileTree × Journal × Option Failure :=
  let made := t.makeDirectory (directoryPath path)
  (made.1, j, made.2)

def switch (path : String) (j : Journal) (t : FileTree) : FileTree × Journal × Option Failure :=
  let others := { j with files := j.files.tail }
  if path.isEmpty then (t, others, some .unnamedLogFile)
  else match touch (filePath path) t with
    | .error failure => (t, others, some failure)
    | .ok t => (t, { others with files := others.files ++ [filePath path] }, none)

section Halves
variable {path : String} {j : Journal} {t : FileTree}

theorem redirect_of_unmade {failure : Failure} (unmade : (j.prepare path t).2.2 = some failure) :
    j.redirect path t = j.prepare path t := by
  revert unmade
  unfold redirect prepare
  rcases t.makeDirectory (directoryPath path) with ⟨made, none | fault⟩
  · intro unmade
    cases unmade
  · exact fun _ => rfl

theorem redirect_of_made (made : (j.prepare path t).2.2 = none) :
    j.redirect path t = j.switch path (j.prepare path t).1 := by
  revert made
  unfold redirect prepare
  rcases t.makeDirectory (directoryPath path) with ⟨tree, none | fault⟩
  · intro _
    dsimp only
    unfold switch
    split
    · rfl
    · cases touch (filePath path) tree with
      | error failure => rfl
      | ok touched => rfl
  · intro made
    cases made

end Halves

theorem touch_eq (path : String) (t : FileTree) :
    touch path t = if hasNull path then .error (.pathWithNull path) else .ok (t.extend path .empty) := by
  unfold touch FileTree.extend
  split
  · rfl
  · cases t.appendFile path .empty with
    | error failure => rfl
    | ok extended => rfl

theorem preserves_prepareDirectory (path : String) (t : FileTree) : t.Preserves (prepareDirectory path t).1 := by
  unfold prepareDirectory
  split
  · exact .refl t
  · exact (FileTree.grown_makeDirectoryAtOnce _ t).preserves

end Journal

def changeFiles (change : Journal → FileTree → FileTree × Journal × Option Failure) : Program Unit := do
  let j ← Program.journal
  let (tree, j, failure?) := change j (← get).tree
  modify fun w => { w with tree, journal? := some j }
  match failure? with
  | some failure => Program.fail failure
  | none => return

def outcome (failure? : Option Failure) : Except Value Unit :=
  match failure? with
  | some failure => .error (.error failure)
  | none => .ok ()

theorem outcome_none : outcome none = .ok () := rfl

theorem outcome_some (failure : Failure) : outcome (some failure) = .error (.error failure) := rfl

section Halves
open Program
variable {w : World} {j : Journal}

theorem setLogFile_eq (path : String) : setLogFile path = changeFiles (Journal.redirect path) := by
  unfold setLogFile changeFiles
  refine bind_congr fun j => bind_congr fun w => ?_
  rcases j.redirect path w.tree with ⟨tree, changed, none | failure⟩
  · rfl
  · rfl

theorem changeFiles_on (there : w.journal? = some j)
    (change : Journal → FileTree → FileTree × Journal × Option Failure) :
    (changeFiles change).on w = (outcome (change j w.tree).2.2,
      { w with tree := (change j w.tree).1, journal? := some (change j w.tree).2.1 }) := by
  unfold changeFiles
  rw [on_bind, journal_of_open there]
  dsimp only
  rw [on_bind, on_get]
  dsimp only
  rw [on_bind, on_modify]
  dsimp only
  cases (change j w.tree).2.2 with
  | some failure => rfl
  | none => rfl

theorem setLogFile_on (there : w.journal? = some j) (path : String) :
    (setLogFile path).on w =
      (changeFiles (Journal.prepare path) >>= fun _ => changeFiles (Journal.switch path)).on w := by
  rw [setLogFile_eq, changeFiles_on there, on_bind, changeFiles_on there]
  cases made : (j.prepare path w.tree).2.2 with
  | some failure =>
    rw [Journal.redirect_of_unmade made, made]
    rfl
  | none =>
    have still : World.journal? { w with tree := (j.prepare path w.tree).1, journal? := some j } = some j := rfl
    have second := changeFiles_on still (Journal.switch path)
    have same : (j.prepare path w.tree).2.1 = j := rfl
    rw [Journal.redirect_of_made made, outcome_none, same]
    dsimp only at second ⊢
    rw [second]

end Halves

/-! ## What is in force -/

/-- What is in force in a logger: its level, and the file that takes its records, if there is one. -/
structure InForce where
  level : Level
  file? : Option String
  deriving DecidableEq, Repr

def Record.fileBytes (timestamp : String) (r : Record) : ByteArray := (r.fileLine timestamp ++ "\n").toUTF8

namespace InForce

def journal (f : InForce) : Journal := ⟨f.level, f.file?.toList⟩

def refusal? (path : String) : Option Failure :=
  if path.isEmpty then some .unnamedLogFile
  else if hasNull (Journal.filePath path) then some (.pathWithNull (Journal.filePath path))
  else none

def named? (path : String) : Option String :=
  if (refusal? path).isSome then none else some (Journal.filePath path)

def ofSettings (settings : LogSettings) : InForce :=
  ⟨settings.level?.getD .info, settings.file?.bind named?⟩

def touched (file? : Option String) (t : FileTree) : FileTree :=
  match file? with
  | some path => t.extend path .empty
  | none => t

theorem preserves_touched (file? : Option String) (t : FileTree) : t.Preserves (touched file? t) := by
  cases file? with
  | none => exact .refl t
  | some path => exact FileTree.preserves_extend_empty path t

theorem switch_eq (f : InForce) (path : String) (t : FileTree) :
    f.journal.switch path t =
      (touched (named? path) t, journal { f with file? := named? path }, refusal? path) := by
  have others : f.journal.files.tail = [] := by
    unfold journal
    cases f.file? with
    | none => rfl
    | some path => rfl
  unfold Journal.switch named? refusal?
  rw [Journal.touch_eq, others]
  by_cases empty : path.isEmpty = true
  · simp [empty, touched, journal]
  · by_cases null : hasNull (Journal.filePath path) = true
    · simp [empty, null, touched, journal]
    · simp [empty, null, touched, journal]

theorem journal_ofSettings (settings : LogSettings) (t : FileTree) :
    t.Preserves (Journal.ofSettings settings t).1 ∧
      ∀ j, (Journal.ofSettings settings t).2 = .ok j → j = (ofSettings settings).journal := by
  unfold Journal.ofSettings
  dsimp only
  split
  · next unset =>
    refine ⟨.refl t, ?_⟩
    intro j made
    cases made
    simp [ofSettings, unset, journal]
  · next empty =>
    refine ⟨.refl t, ?_⟩
    intro j made
    cases made
    have none : named? "" = none := by simp [named?, refusal?]
    simp [ofSettings, empty, none, journal]
  · next path other set =>
    have directory := Journal.preserves_prepareDirectory path t
    split
    · next tree failure unmade =>
      rw [unmade] at directory
      refine ⟨directory, ?_⟩
      intro j opened
      cases opened
    · next tree made =>
      rw [made] at directory
      rw [Journal.touch_eq]
      -- A name with a null in it is refused only when its directory was made; then there is no journal.
      by_cases null : hasNull (Journal.filePath path) = true
      · rw [if_pos null]
        refine ⟨directory, ?_⟩
        intro j opened
        cases opened
      · rw [if_neg null]
        dsimp only
        refine ⟨directory.trans (FileTree.preserves_extend_empty _ tree), ?_⟩
        intro j opened
        cases opened
        have filled : ¬ path.isEmpty = true := by
          intro empty
          exact other (by rw [String.isEmpty_iff.mp empty])
        simp [ofSettings, set, named?, refusal?, filled, null, journal]

end InForce

/-! ## One act -/

/-- What is done with a logger: a record is noted, the level is set, another file is named; or one half of that is
done, where something else comes between the two. -/
inductive Act where
  | note (r : Record)
  | level (threshold : Level)
  | file (path : String)
  | directory (path : String)
  | switch (path : String)

def Act.perform : Act → Program Unit
  | .note r => Program.note r
  | .level threshold => Program.setLevel threshold
  | .file path => Program.setLogFile path
  | .directory path => changeFiles (Journal.prepare path)
  | .switch path => changeFiles (Journal.switch path)

namespace InForce

/-- Is the record logged?  The level admits it, the call that notes it returns, and it is not withheld. -/
def takes (w : World) (f : InForce) (r : Record) : Bool :=
  f.level.admits r.level && ((Program.note r).on w).1.isOk && !r.isException

/-- What is in force after an act.  To name another file changes nothing if its directory cannot be made. -/
def next (w : World) (f : InForce) : Act → InForce
  | .note _ | .directory _ => f
  | .level threshold => { f with level := threshold }
  | .switch path => { f with file? := named? path }
  | .file path =>
    if (w.tree.makeDirectory (Journal.directoryPath path)).2.isSome then f else { f with file? := named? path }

/-- The line that an act sends to a file, with the place of the file.  No line is sent to a file that cannot be
opened. -/
def sent? (w : World) (f : InForce) : Act → Option (Place × ByteArray)
  | .note r =>
    if f.takes w r then f.file?.bind fun path =>
      (w.tree.place? path).map fun place => (place, r.fileBytes w.timestamp)
    else none
  | _ => none

end InForce

def received (place : Place) (lines : List (Place × ByteArray)) (content : ByteArray) : ByteArray :=
  lines.foldl (fun content line => if line.1 = place then content ++ line.2 else content) content

theorem received_append (place : Place) (lines more : List (Place × ByteArray)) (content : ByteArray) :
    received place (lines ++ more) content = received place more (received place lines content) :=
  List.foldl_append ..

section Acts
open Program
variable {w : World} {f : InForce}

/-- What becomes of a record: the message is looked at before the level, and what is shown beside it only behind it. -/
theorem note_on_open (there : w.journal? = some f.journal) (r : Record) :
    (note r).on w =
      if r.givesText "message" then
        if f.journal.admits r then
          match r.unshown? with
          | some failure => (.error failure, w)
          | none => (.ok (), { w with console := w.console.add w.timestamp r,
                                      tree := f.journal.writeFiles w.timestamp r w.tree })
        else (.ok (), w)
      else (.error (.error .withoutText), w) := by
  unfold note
  rw [on_bind, journal_of_open there]
  dsimp only
  by_cases message : r.givesText "message" = true
  · by_cases admitted : f.journal.admits r = true
    · simp only [message, admitted, Bool.not_true, Bool.false_eq_true, if_false, if_true]
      cases r.unshown? with
      | some failure => rfl
      | none => rfl
    · simp only [message, admitted, Bool.not_true, Bool.false_eq_true, if_false, if_true]
      rfl
  · simp only [message]
    rfl

theorem takes_iff (there : w.journal? = some f.journal) (r : Record) : f.takes w r = true ↔
    f.level.admits r.level = true ∧ r.isException = false ∧ r.givesText "message" = true ∧ r.unshown? = none := by
  have admits : f.journal.admits r = (f.level.admits r.level && !r.isException) := rfl
  rw [InForce.takes, note_on_open there, admits]
  cases f.level.admits r.level <;> cases r.isException <;> cases r.givesText "message" <;> cases r.unshown? <;>
    simp [Except.isOk, Except.toBool]

theorem note_on_takes (there : w.journal? = some f.journal) (r : Record) :
    ((note r).on w).2 =
      if f.takes w r then
        { w with console := w.console.add w.timestamp r, tree := f.journal.writeFiles w.timestamp r w.tree }
      else w := by
  have admits : f.journal.admits r = (f.level.admits r.level && !r.isException) := rfl
  have takes := takes_iff there r
  rw [note_on_open there, admits]
  by_cases taken : f.takes w r = true
  · obtain ⟨level, kept, message, shown⟩ := takes.mp taken
    simp [taken, level, kept, message, shown]
  · rw [if_neg taken]
    rw [takes] at taken
    split
    · next message =>
      split
      · next admitted =>
        simp only [Bool.and_eq_true, Bool.not_eq_true'] at admitted
        cases shown : r.unshown? with
        | some failure => rfl
        | none => exact absurd ⟨admitted.1, admitted.2, message, shown⟩ taken
      · rfl
    · rfl

theorem writeFiles_eq (f : InForce) (timestamp : String) (r : Record) (t : FileTree) :
    f.journal.writeFiles timestamp r t =
      match f.file? with
      | some path => t.extend path (r.fileBytes timestamp)
      | none => t := by
  unfold InForce.journal
  cases f.file? with
  | none => rfl
  | some path => rfl

theorem setLevel_on (there : w.journal? = some f.journal) (threshold : Level) :
    (setLevel threshold).on w =
      (.ok (), { w with journal? := some (InForce.journal { f with level := threshold }) }) := by
  unfold setLevel
  rw [on_bind, journal_of_open there]
  rfl

theorem prepare_on (there : w.journal? = some f.journal) (path : String) :
    (changeFiles (Journal.prepare path)).on w = (outcome (w.tree.makeDirectory (Journal.directoryPath path)).2,
      { w with tree := (w.tree.makeDirectory (Journal.directoryPath path)).1, journal? := some f.journal }) := by
  rw [changeFiles_on there, Journal.prepare]

theorem switch_on (there : w.journal? = some f.journal) (path : String) :
    (changeFiles (Journal.switch path)).on w = (outcome (InForce.refusal? path),
      { w with tree := InForce.touched (InForce.named? path) w.tree,
               journal? := some (InForce.journal { f with file? := InForce.named? path }) }) := by
  rw [changeFiles_on there, InForce.switch_eq]

theorem setLogFile_of_unmade (there : w.journal? = some f.journal) {path : String} {failure : Failure}
    (unmade : (w.tree.makeDirectory (Journal.directoryPath path)).2 = some failure) :
    (setLogFile path).on w = (.error (.error failure),
      { w with tree := (w.tree.makeDirectory (Journal.directoryPath path)).1, journal? := some f.journal }) := by
  rw [setLogFile_on there, on_bind, prepare_on there, unmade, outcome_some]

theorem setLogFile_of_made (there : w.journal? = some f.journal) {path : String}
    (made : (w.tree.makeDirectory (Journal.directoryPath path)).2 = none) :
    (setLogFile path).on w = (outcome (InForce.refusal? path),
      { w with tree := InForce.touched (InForce.named? path) (w.tree.makeDirectory (Journal.directoryPath path)).1,
               journal? := some (InForce.journal { f with file? := InForce.named? path }) }) := by
  have open_ : World.journal? { w with tree := (w.tree.makeDirectory (Journal.directoryPath path)).1,
                                       journal? := some f.journal } = some f.journal := rfl
  rw [setLogFile_on there, on_bind, prepare_on there, made, outcome_none]
  dsimp only
  rw [switch_on open_]

/-- What an act on an open logger does to it: the journal is the one of what is in force next, every directory and
every file is still there, and the line that was sent is at the end of its file. -/
structure Done (w : World) (f : InForce) (act : Act) (after : World) : Prop where
  journal : after.journal? = some (f.next w act).journal
  keeps : w.tree.Keeps after.tree
  content : ∀ place, after.tree.contentAt place = received place (f.sent? w act).toList (w.tree.contentAt place)

theorem done_of_preserves {act : Act} {after : World} (journal : after.journal? = some (f.next w act).journal)
    (unsent : f.sent? w act = none) (preserves : w.tree.Preserves after.tree) : Done w f act after := by
  refine ⟨journal, preserves.keeps, ?_⟩
  intro place
  rw [unsent]
  exact preserves.content place

theorem done_note (there : w.journal? = some f.journal) (r : Record) : Done w f (.note r) ((note r).on w).2 := by
  rw [note_on_takes there]
  by_cases takes : f.takes w r = true
  · have sent : f.sent? w (.note r) = f.file?.bind fun path => (w.tree.place? path).map
        fun place => (place, r.fileBytes w.timestamp) := if_pos takes
    rw [if_pos takes, writeFiles_eq]
    cases file : f.file? with
    | none =>
      rw [file] at sent
      exact done_of_preserves there sent (.refl w.tree)
    | some path =>
      rw [file, Option.bind_some] at sent
      refine ⟨there, FileTree.keeps_extend path _ w.tree, ?_⟩
      intro place
      dsimp only
      rw [FileTree.contentAt_extend, sent]
      cases w.tree.place? path with
      | none => simp [received]
      | some other => simp [received]
  · rw [if_neg takes]
    exact done_of_preserves there (if_neg takes) (.refl w.tree)

theorem done_file (there : w.journal? = some f.journal) (path : String) :
    Done w f (.file path) ((setLogFile path).on w).2 := by
  have directory := (FileTree.grown_makeDirectory (Journal.directoryPath path) w.tree).preserves
  have unsent : f.sent? w (.file path) = none := rfl
  cases made : (w.tree.makeDirectory (Journal.directoryPath path)).2 with
  | some failure =>
    have same : f.next w (.file path) = f := by simp only [InForce.next, made, Option.isSome_some, if_true]
    rw [setLogFile_of_unmade there made]
    refine done_of_preserves ?_ unsent directory
    rw [same]
  | none =>
    have named : f.next w (.file path) = { f with file? := InForce.named? path } := by
      simp only [InForce.next, made, Option.isSome_none, Bool.false_eq_true, if_false]
    rw [setLogFile_of_made there made]
    refine done_of_preserves ?_ unsent (directory.trans (InForce.preserves_touched _ _))
    rw [named]

theorem done_perform (there : w.journal? = some f.journal) (act : Act) : Done w f act (act.perform.on w).2 := by
  cases act with
  | note r => exact done_note there r
  | level threshold =>
    have unsent : f.sent? w (.level threshold) = none := rfl
    rw [Act.perform, setLevel_on there]
    exact done_of_preserves rfl unsent (.refl w.tree)
  | file path => exact done_file there path
  | directory path =>
    have unsent : f.sent? w (.directory path) = none := rfl
    rw [Act.perform, prepare_on there]
    exact done_of_preserves rfl unsent (FileTree.grown_makeDirectory _ _).preserves
  | switch path =>
    have unsent : f.sent? w (.switch path) = none := rfl
    rw [Act.perform, switch_on there]
    exact done_of_preserves rfl unsent (InForce.preserves_touched _ _)

end Acts

/-! ## A history -/

section Opening
open Program
variable {α : Type} {w opened : World} {j : Journal} {reason : Value}

theorem on_of_opens (use : Journal → Program α) (opens : journal.on w = (.ok j, opened)) :
    (journal >>= use).on w = (journal >>= use).on opened := by
  rw [on_bind, on_bind, opens, journal_of_open (open_of_journal opens)]

theorem on_of_shut (use : Journal → Program α) (fails : journal.on w = (.error reason, opened)) :
    (journal >>= use).on w = (.error reason, opened) := by
  rw [on_bind, fails]

theorem perform_of_opens (opens : journal.on w = (.ok j, opened)) (act : Act) :
    act.perform.on w = act.perform.on opened := by
  cases act with
  | note r => exact on_of_opens _ opens
  | level threshold => exact on_of_opens _ opens
  | file path => exact on_of_opens _ opens
  | directory path => exact on_of_opens _ opens
  | switch path => exact on_of_opens _ opens

theorem perform_of_shut (fails : journal.on w = (.error reason, opened)) (act : Act) :
    act.perform.on w = (.error reason, opened) := by
  cases act with
  | note r => exact on_of_shut _ fails
  | level threshold => exact on_of_shut _ fails
  | file path => exact on_of_shut _ fails
  | directory path => exact on_of_shut _ fails
  | switch path => exact on_of_shut _ fails

theorem journal_of_unopened (unopened : w.journal? = none) :
    (∃ reason shut, journal.on w = (.error reason, shut) ∧ shut.journal? = none) ∨
      ∃ opened, journal.on w =
        (.ok (InForce.ofSettings (w.settings.current w.environment).logging).journal, opened) := by
  have loaded : (w.settings.load w.environment).current w.environment = w.settings.current w.environment := rfl
  have made := (InForce.journal_ofSettings (w.settings.current w.environment).logging w.tree).2
  revert made
  rw [Downloader.journal_on, unopened]
  dsimp only
  rw [loaded]
  rcases Journal.ofSettings (w.settings.current w.environment).logging w.tree with ⟨tree, failure | j⟩
  · exact fun _ => .inl ⟨_, _, rfl, rfl⟩
  · intro made
    rw [made j rfl]
    exact .inr ⟨_, rfl⟩

theorem preserves_journal (w : World) : w.tree.Preserves (journal.on w).2.tree := by
  have loaded : (w.settings.load w.environment).current w.environment = w.settings.current w.environment := rfl
  have preserves := (InForce.journal_ofSettings (w.settings.current w.environment).logging w.tree).1
  revert preserves
  rw [Downloader.journal_on]
  dsimp only
  rw [loaded]
  cases w.journal? with
  | some j => exact fun _ => .refl w.tree
  | none =>
    rcases Journal.ofSettings (w.settings.current w.environment).logging w.tree with ⟨tree, failure | j⟩
    · exact id
    · exact id

end Opening

/-- What a history of acts comes to: the world, what is in force once there is a logger, and the lines that were sent,
each with the place of its file. -/
structure Course where
  world : World
  inForce? : Option InForce
  sent : List (Place × ByteArray)

namespace Course

def start (w : World) : Course := ⟨w, none, []⟩

/-- The world with the logger in it.  That is made when something is done with it for the first time. -/
def opened (c : Course) : World := (Program.journal.on c.world).2

def made? (c : Course) : Option InForce :=
  match c.inForce? with
  | some f => some f
  | none =>
    if (Program.journal.on c.world).1.isOk then
      some (.ofSettings (c.world.settings.current c.world.environment).logging)
    else none

def step (c : Course) (act : Act) : Course where
  world := (act.perform.on c.world).2
  inForce? := c.made?.map fun f => f.next c.opened act
  sent := c.sent ++ (c.made?.bind fun f => f.sent? c.opened act).toList

def after (acts : List Act) (c : Course) : Course := acts.foldl step c

structure Sound (w : World) (c : Course) : Prop where
  journal : c.world.journal? = c.inForce?.map InForce.journal
  /-- What was written to a file are the lines that were sent there, each once and in their order. -/
  content : ∀ place, c.world.tree.contentAt place = received place c.sent (w.tree.contentAt place)

section Steps
variable {w : World} {c : Course}

theorem sound_start (unopened : w.journal? = none) : Sound w (.start w) := ⟨unopened, fun _ => rfl⟩

theorem Sound.made_cases (sound : Sound w c) :
    (c.made? = none ∧ c.opened.journal? = none ∧
      ∃ reason, Program.journal.on c.world = (.error reason, c.opened)) ∨
      ∃ f, c.made? = some f ∧ c.opened.journal? = some f.journal ∧
        Program.journal.on c.world = (.ok f.journal, c.opened) := by
  have journal := sound.journal
  unfold made? opened
  cases there : c.inForce? with
  | some f =>
    rw [there] at journal
    have opens := Program.journal_of_open journal
    rw [opens]
    exact .inr ⟨f, rfl, journal, rfl⟩
  | none =>
    rw [there] at journal
    rcases journal_of_unopened journal with ⟨reason, shut, fails, unopened⟩ | ⟨opened, opens⟩
    · rw [fails]
      exact .inl ⟨rfl, unopened, reason, rfl⟩
    · rw [opens]
      exact .inr ⟨_, rfl, Program.open_of_journal opens, rfl⟩

theorem Sound.step (sound : Sound w c) (act : Act) : Sound w (c.step act) := by
  -- The logger is there before the act begins, and to make it adds nothing to a file.
  have opening : c.world.tree.Preserves c.opened.tree := preserves_journal c.world
  have before : ∀ place, c.opened.tree.contentAt place = received place c.sent (w.tree.contentAt place) :=
    fun place => (opening.content place).trans (sound.content place)
  rcases sound.made_cases with ⟨unmade, unopened, reason, fails⟩ | ⟨f, made, there, opens⟩
  · have same : (act.perform.on c.world).2 = c.opened := congrArg Prod.snd (perform_of_shut fails act)
    unfold Course.step
    rw [unmade, same]
    refine ⟨unopened, ?_⟩
    intro place
    simpa using before place
  · have same : (act.perform.on c.world).2 = (act.perform.on c.opened).2 :=
      congrArg Prod.snd (perform_of_opens opens act)
    have done := done_perform there act
    unfold Course.step
    rw [made, same]
    refine ⟨done.journal, ?_⟩
    intro place
    exact ((done.content place).trans (congrArg _ (before place))).trans (received_append place c.sent _ _).symm

theorem Sound.after (sound : Sound w c) (acts : List Act) : Sound w (c.after acts) := by
  induction acts generalizing c with
  | nil => exact sound
  | cons act rest ih => exact ih (sound.step act)

theorem Sound.keeps_step (sound : Sound w c) (act : Act) : c.world.tree.Keeps (c.step act).world.tree := by
  have opening : c.world.tree.Keeps c.opened.tree := (preserves_journal c.world).keeps
  unfold Course.step
  rcases sound.made_cases with ⟨_, _, reason, fails⟩ | ⟨f, _, there, opens⟩
  · rw [perform_of_shut fails]
    exact opening
  · rw [perform_of_opens opens]
    exact opening.trans (done_perform there act).keeps

theorem Sound.keeps_after (sound : Sound w c) (acts : List Act) : c.world.tree.Keeps (c.after acts).world.tree := by
  induction acts generalizing c with
  | nil => exact .refl _
  | cons act rest ih => exact (sound.keeps_step act).trans (ih (sound.step act))

theorem Sound.refused (sound : Sound w c) {f : InForce} (made : c.made? = some f) {path : String} {failure : Failure}
    (unmade : (c.opened.tree.makeDirectory (Journal.directoryPath path)).2 = some failure) :
    ∃ after, (Program.setLogFile path).on c.world = (.error (.error failure), after) ∧
      after.journal? = some f.journal := by
  rcases sound.made_cases with ⟨none, _⟩ | ⟨g, same, there, opens⟩
  · rw [none] at made
    cases made
  · rw [same] at made
    cases made
    have same := perform_of_opens opens (.file path)
    unfold Act.perform at same
    exact ⟨_, same.trans (setLogFile_of_unmade there unmade), rfl⟩

theorem Sound.replaced (sound : Sound w c) {path : String} {after : World}
    (named : (Program.setLogFile path).on c.world = (.ok (), after)) :
    ∃ f, c.made? = some f ∧ after.journal? = some ⟨f.level, [Journal.filePath path]⟩ ∧
      ∀ place, after.tree.place? (Journal.filePath path) = some place →
        after.tree.IsOpen (Journal.filePath path) place := by
  rcases sound.made_cases with ⟨_, _, reason, fails⟩ | ⟨f, made, there, opens⟩
  · have failed := (perform_of_shut fails (.file path)).symm.trans named
    cases failed
  · have ended := (perform_of_opens opens (.file path)).symm.trans named
    unfold Act.perform at ended
    refine ⟨f, made, ?_⟩
    cases directory : (c.opened.tree.makeDirectory (Journal.directoryPath path)).2 with
    | some failure =>
      rw [setLogFile_of_unmade there directory] at ended
      cases ended
    | none =>
      rw [setLogFile_of_made there directory] at ended
      cases fit : InForce.refusal? path with
      | some failure =>
        rw [fit, outcome_some] at ended
        cases ended
      | none =>
        have name : InForce.named? path = some (Journal.filePath path) := by simp [InForce.named?, fit]
        rw [name] at ended
        have same := congrArg Prod.snd ended
        subst same
        refine ⟨rfl, ?_⟩
        intro place found
        dsimp only [InForce.touched] at found ⊢
        exact FileTree.isOpen_of_extend found

end Steps

/-- Where the records of a history have gone, and what another file would change. -/
structure Routed (w : World) (c : Course) : Prop extends Sound w c where
  /-- The next call that names another file leaves just that in use, if it does not fail. -/
  replaced : ∀ path after, (Program.setLogFile path).on c.world = (.ok (), after) →
    ∃ f, c.made? = some f ∧ after.journal? = some ⟨f.level, [Journal.filePath path]⟩ ∧
      ∀ place, after.tree.place? (Journal.filePath path) = some place →
        after.tree.IsOpen (Journal.filePath path) place
  /-- If its directory cannot be made, it fails with that, and all stays in force. -/
  refused : ∀ f path failure, c.made? = some f →
    (c.opened.tree.makeDirectory (Journal.directoryPath path)).2 = some failure →
      ∃ after, (Program.setLogFile path).on c.world = (.error (.error failure), after) ∧
        after.journal? = some f.journal
  /-- A file that is there stays the same one, whatever is done next. -/
  steady : ∀ acts path place, c.world.tree.IsOpen path place → (c.after acts).world.tree.IsOpen path place

/-- Whatever has been done with a logger: it has at most one file, the one that was named last, and each record whose
level was admitted when it was logged is in the file that was in use then and in no other. -/
theorem routed_after {w : World} (unopened : w.journal? = none) (acts : List Act) :
    Routed w ((Course.start w).after acts) := by
  have sound := (sound_start unopened).after acts
  refine ⟨sound, fun path after => sound.replaced, ?_, ?_⟩
  · exact fun f path failure made => sound.refused made
  · exact fun more path place => .of_keeps (sound.keeps_after more)

theorem routed_after_of_switch :
    let w := World.fresh [("LOG_FILE", "a.log")] (.empty ["home"])
    let c := (start w).after [.note (.error "first"), .file "logs/b.log", .note (.info "second"), .level .error,
      .note (.warn "third"), .note ⟨.error, "lost", [("number", .integer 10)]⟩, .note (.error "fourth")]
    w.journal? = none ∧ Routed w c ∧ c.inForce? = some ⟨.error, some "logs/b.log"⟩ ∧
      c.sent = [(["home", "a.log"], (Record.error "first").fileBytes ""),
        (["home", "logs", "b.log"], (Record.info "second").fileBytes ""),
        (["home", "logs", "b.log"], (Record.error "fourth").fileBytes "")] :=
  ⟨rfl, routed_after rfl _, by decide +kernel, rfl⟩

end Course
end MeteredDownload.Log
