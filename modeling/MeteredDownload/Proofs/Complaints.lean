import MeteredDownload.Files.Save
import MeteredDownload.Proofs.Notes

/-!
# What is said of a file that could not be saved

Two things can keep a file from being saved: its directory cannot be made, or the file cannot be written
(`Files.obstacle?`).  Saving then fails with just that, and the console says so last of all (`errorLine`).  Behind the
path stand the name and the message of the failure (`told`), unless the path looks like a pattern with places to fill:
then the line ends with the path, and what the failure was is not told (`Log.consoleLine_complaint`).
-/
set_option autoImplicit false
namespace MeteredDownload

open Log

/-! ## Lines about failures -/

namespace Log

theorem hasPlace_cons {c : Char} (other : c ≠ '%') (rest : List Char) : hasPlace (c :: rest) = hasPlace rest := by
  rw [hasPlace.eq_def]
  split
  · next same => exact absurd (List.cons.inj same).1 other
  · next same => rw [(List.cons.inj same).2]
  · next none => cases none

theorem hasPlace_append {front : List Char} (plain : ∀ c ∈ front, c ≠ '%') (rest : List Char) :
    hasPlace (front ++ rest) = hasPlace rest := by
  induction front with
  | nil => rfl
  | cons c more ih =>
    have first := hasPlace_cons (plain c List.mem_cons_self) (more ++ rest)
    exact first.trans (ih fun d member => plain d (List.mem_cons_of_mem _ member))

def errorLine (timestamp said : String) : String := timestamp ++ " [\x1b[31merror\x1b[39m]: " ++ said

def told (failure : Failure) : String :=
  " \x7b\"error\":\x7b\"name\":" ++ Text.quoted failure.name ++ ",\"message\":" ++ Text.quoted failure.message ++
    "\x7d\x7d"

def complaint (text path : String) (failure : Failure) : Record := .error (text ++ path) [("error", failure)]

theorem render_error (name message : String) :
    " " ++ (Json.record [("error", .record [("name", .text name), ("message", .text message)])]).render =
      " \x7b\"error\":\x7b\"name\":" ++ Text.quoted name ++ ",\"message\":" ++ Text.quoted message ++ "\x7d\x7d" := by
  have outer : Text.quoted "error" = "\"error\"" := by decide +kernel
  have first : Text.quoted "name" = "\"name\"" := by decide +kernel
  have second : Text.quoted "message" = "\"message\"" := by decide +kernel
  rw [Json.render, Json.renderFields, Json.renderFields, outer, Json.render, Json.renderFields, Json.renderFields,
    Json.renderFields, first, second, Json.render, Json.render]
  simp only [String.intercalate_cons_cons, String.intercalate_singleton]
  apply String.toList_injective
  simp

theorem render_failure (failure : Failure) :
    " " ++ (Json.record (Datum.jsonFields .brief [("error", .value failure)])).render = told failure := by
  have brief : Json.ofFailure .brief failure = Json.brief failure := by
    cases failure <;> rfl
  have fields : Datum.jsonFields .brief [("error", .value failure)] =
      [("error", .record [("name", .text failure.name), ("message", .text failure.message)])] := by
    simp only [Datum.jsonFields, Datum.json?, Json.ofValue?, brief, Json.brief]
  rw [fields]
  exact render_error failure.name failure.message

theorem complaint_eq (text path : String) (failure : Failure) :
    complaint text path failure = ⟨.error, text ++ path, [("error", .value failure)]⟩ := rfl

theorem isPlain_complaint (text path : String) (failure : Failure) : (complaint text path failure).IsPlain := by
  have plain : (Record.ofValues .error (text ++ path) [("error", failure)]).IsPlain := .ofValues rfl rfl
  exact plain

theorem given?_complaint (text path : String) (failure : Failure) {key : String} (other : key ≠ "error") :
    (complaint text path failure).given? key = none := by
  have absent : (complaint text path failure).fields.lookup key = none := by
    simp [complaint_eq, List.lookup_cons, beq_eq_false_iff_ne.mpr other]
  simp [Record.given?, absent]

theorem consoleLine_complaint {text : String} (plain : ∀ c ∈ text.toList, c ≠ '%') (path timestamp : String)
    (failure : Failure) : (complaint text path failure).consoleLine timestamp =
      errorLine timestamp (text ++ path ++ if hasPlace path.toList then "" else told failure) := by
  have loses : (complaint text path failure).losesFields = hasPlace path.toList := by
    rw [Record.losesFields, complaint_eq, String.toList_append, hasPlace_append plain]
  have time : (complaint text path failure).shownTime timestamp = .value (.text timestamp) := by
    rw [Record.shownTime, given?_complaint text path failure (by decide)]
    rfl
  have message : (complaint text path failure).shownMessage = text ++ path := by
    rw [Record.shownMessage, given?_complaint text path failure (by decide)]
    rfl
  have shown : (complaint text path failure).shownFields =
      if hasPlace path.toList then [] else [("error", .value failure)] := by
    rw [Record.shownFields, loses]
    rfl
  have level : " [" ++ Record.colouredLevel .error ++ "]: " = " [\x1b[31merror\x1b[39m]: " := by decide +kernel
  have front : ∀ said, timestamp ++ " [" ++ Record.colouredLevel .error ++ "]: " ++ said = errorLine timestamp said := by
    intro said
    simp only [errorLine, ← level, String.append_assoc]
  unfold Record.consoleLine
  rw [shown, time, message, Datum.asText, Value.asText, String.append_assoc]
  cases hasPlace path.toList with
  | true => exact front (text ++ path ++ "")
  | false =>
    refine (front _).trans ?_
    exact congrArg (fun fields => errorLine timestamp (text ++ path ++ fields)) (render_failure failure)

theorem told_ne_empty (failure : Failure) : told failure ≠ "" := by
  unfold told
  rw [ne_eq, String.append_eq_empty_iff]
  exact fun both => absurd both.2 (by decide)

theorem errorLine_told_iff (timestamp said : String) (failure : Failure) (withheld : Bool) :
    errorLine timestamp (said ++ if withheld then "" else told failure) = errorLine timestamp (said ++ told failure) ↔
      withheld = false := by
  have cancel : ∀ fields, errorLine timestamp (said ++ fields) = errorLine timestamp (said ++ told failure) ↔
      fields = told failure := by
    intro fields
    simp only [errorLine, String.append_right_inj]
  refine (cancel _).trans ?_
  cases withheld with
  | true => simp only [if_true, (told_ne_empty failure).symm, reduceCtorEq]
  | false => simp only [Bool.false_eq_true, if_false]

end Log

/-! ## Complaints in a world -/

namespace World

theorem err_noted_complaint {w : World} {j : Journal} (opened : w.journal? = some j) {text : String}
    (plain : ∀ c ∈ text.toList, c ≠ '%') (path : String) (failure : Failure) :
    (w.noted (complaint text path failure)).console.err = w.console.err.push
      (errorLine w.timestamp (text ++ path ++ if hasPlace path.toList then "" else told failure)) := by
  have known : (complaint text path failure).isException = false := by
    rw [Record.isException, given?_complaint text path failure (by decide)]
  have admitted : j.admits (complaint text path failure) = true := by
    rw [Journal.admits, known]
    exact Bool.and_true _ ▸ decide_eq_true (Nat.zero_le _)
  rw [noted_of_open opened, if_pos admitted]
  exact congrArg w.console.err.push (consoleLine_complaint plain path w.timestamp failure)

theorem err_noted_debug (w : World) (message : String) : (w.noted (.debug message)).console.err = w.console.err := by
  unfold noted
  split
  · rfl
  · split
    · rfl
    · rfl

theorem timestamp_noted (w : World) (record : Record) : (w.noted record).timestamp = w.timestamp := by
  have same := congrArg World.timestamp (noted_noted record w)
  exact same

end World

namespace Program

theorem console_of_journal {w opened : World} {j : Journal} (opens : journal.on w = (.ok j, opened)) :
    opened.console = w.console ∧ opened.timestamp = w.timestamp := by
  rw [Downloader.journal_on] at opens
  dsimp only at opens
  split at opens
  · cases opens
    exact ⟨rfl, rfl⟩
  · split at opens
    · cases opens
    · cases opens
      exact ⟨rfl, rfl⟩

theorem complain_on {α : Type} {w opened : World} {j : Journal} (opens : journal.on w = (.ok j, opened))
    (text path : String) (failure : Failure) :
    Program.on w (do
      note (complaint text path failure)
      throw (.error failure) : Program α) = (.error (.error failure), opened.noted (complaint text path failure)) := by
  rw [on_bind, note_on opens _ (isPlain_complaint text path failure)]
  rfl

theorem note_on_shut {w shut : World} {reason : Value} (fails : journal.on w = (.error reason, shut))
    (record : Record) : (note record).on w = (.error reason, shut) := by
  unfold note
  rw [on_bind, fails]

end Program

/-! ## Saving a file -/

namespace Files
open Program

def directoryText : String := "Failed to create directory: "

def fileText : String := "Failed to write file: "

def prepared (path : String) (w : World) : World :=
  { w with tree := (w.tree.makeDirectory (Journal.directoryPath path)).1 }

def ensured (path : String) (opened : World) : World :=
  opened.noted (.debug ("Directory ensured: " ++ Journal.directoryPath path))

/-- What keeps a file from being saved: its directory cannot be made, or else it cannot be written. -/
def obstacle? (path : String) (content : ByteArray) (w opened : World) : Option Failure :=
  match (w.tree.makeDirectory (Journal.directoryPath path)).2 with
  | some failure => some failure
  | none =>
    match (ensured path opened).tree.writeFile path content with
    | .error failure => some failure
    | .ok _ => none

/-- The lines that are left of an attempt to save a file when it fails: one about the directory, if that could not be
made, and one about the file. -/
def complaints (path : String) (failure : Failure) (w : World) : List String :=
  let directory := Journal.directoryPath path
  let line (text place : String) :=
    errorLine w.timestamp (text ++ place ++ if hasPlace place.toList then "" else told failure)
  match (w.tree.makeDirectory directory).2 with
  | some _ => [line directoryText directory, line fileText path]
  | none => [line fileText path]

/-- What an action fails with if it has failed for a reason and opening the journal then comes to this. -/
def reasonOf (opening : Except Value Journal) (reason : Value) : Value :=
  match opening with
  | .error other => other
  | .ok _ => reason

section Save
variable {w opened : World} {j : Journal} {path : String} {content : ByteArray}

theorem ensureDirectory_of_opens (opens : journal.on (prepared path w) = (.ok j, opened)) :
    (ensureDirectory (Journal.directoryPath path)).on w =
      match (w.tree.makeDirectory (Journal.directoryPath path)).2 with
      | none => (.ok (), ensured path opened)
      | some failure => (.error (.error failure),
          opened.noted (complaint directoryText (Journal.directoryPath path) failure)) := by
  unfold ensureDirectory
  rw [on_bind, on_get]
  dsimp only
  rw [on_bind, on_modify]
  dsimp only
  cases (w.tree.makeDirectory (Journal.directoryPath path)).2 with
  | none => exact note_on opens _ (.ofValues rfl rfl)
  | some failure => exact complain_on opens directoryText (Journal.directoryPath path) failure

theorem saveFile_of_unmade (opens : journal.on (prepared path w) = (.ok j, opened)) {failure : Failure}
    (unmade : (w.tree.makeDirectory (Journal.directoryPath path)).2 = some failure) :
    (saveFile path content).on w = (.error (.error failure),
      (opened.noted (complaint directoryText (Journal.directoryPath path) failure)).noted
        (complaint fileText path failure)) := by
  have still := (World.noted_noted (complaint directoryText (Journal.directoryPath path) failure) opened).journal?
  have opens' := journal_of_open (still.trans (open_of_journal opens))
  have failed := ensureDirectory_of_opens opens
  rw [unmade] at failed
  unfold saveFile
  rw [on_tryCatch, on_bind, failed]
  exact complain_on opens' fileText path failure

theorem saveFile_of_made (opens : journal.on (prepared path w) = (.ok j, opened))
    (made : (w.tree.makeDirectory (Journal.directoryPath path)).2 = none) :
    (saveFile path content).on w =
      match (ensured path opened).tree.writeFile path content with
      | .error failure => (.error (.error failure), (ensured path opened).noted (complaint fileText path failure))
      | .ok tree => (.ok (), World.noted (.debug ("Wrote file: " ++ path)) { ensured path opened with tree }) := by
  have still := (World.noted_noted (.debug ("Directory ensured: " ++ Journal.directoryPath path)) opened).journal?
  have there : (ensured path opened).journal? = some j := still.trans (open_of_journal opens)
  have directory := ensureDirectory_of_opens opens
  rw [made] at directory
  unfold saveFile
  rw [on_tryCatch, on_bind, directory]
  dsimp only
  unfold writeContent
  rw [on_bind, on_bind, on_get]
  dsimp only
  cases (ensured path opened).tree.writeFile path content with
  | error failure => exact complain_on (journal_of_open there) fileText path failure
  | ok tree =>
    have kept : World.journal? { ensured path opened with tree } = some j := there
    dsimp only
    rw [on_modify]
    dsimp only
    rw [note_on (journal_of_open kept) (.debug ("Wrote file: " ++ path)) (.ofValues rfl rfl)]

/-- Nothing can be noted without a journal, and then an attempt to save a file fails for that.  When it is to be noted
that it failed, opening the journal is tried once more. -/
theorem saveFile_of_shut {shut : World} {reason : Value} (fails : journal.on (prepared path w) = (.error reason, shut)) :
    ((saveFile path content).on w).1 = .error (reasonOf (journal.on shut).1 reason) := by
  have directory : (ensureDirectory (Journal.directoryPath path)).on w = (.error reason, shut) := by
    unfold ensureDirectory
    rw [on_bind, on_get]
    dsimp only
    rw [on_bind, on_modify]
    dsimp only
    cases (w.tree.makeDirectory (Journal.directoryPath path)).2 with
    | none => exact note_on_shut fails _
    | some failure =>
      dsimp only
      rw [on_bind, ← prepared, note_on_shut fails]
  unfold saveFile
  rw [on_tryCatch, on_bind, directory]
  dsimp only
  rw [on_bind]
  rcases again : journal.on shut with ⟨other | j, last⟩
  · rw [note_on_shut again]
    rfl
  · have noted := note_on again (.error ("Failed to write file: " ++ path) [("error", reason)]) (.ofValues rfl rfl)
    rw [noted]
    rfl

theorem saveFile_of_clear (opens : journal.on (prepared path w) = (.ok j, opened))
    (clear : obstacle? path content w opened = none) : ((saveFile path content).on w).1 = .ok () := by
  unfold obstacle? at clear
  split at clear
  · cases clear
  · next made =>
    have saved : (saveFile path content).on w = _ := saveFile_of_made opens made
    split at clear
    · cases clear
    · next tree written =>
      rw [written] at saved
      exact congrArg Prod.fst saved

theorem saveFile_of_obstacle (opens : journal.on (prepared path w) = (.ok j, opened)) {failure : Failure}
    (met : obstacle? path content w opened = some failure) :
    ∃ after, (saveFile path content).on w = (.error (.error failure), after) ∧
      after.console.err.toList = w.console.err.toList ++ complaints path failure w := by
  obtain ⟨console, time⟩ := console_of_journal opens
  simp only [prepared] at console time
  have there := open_of_journal opens
  have plain : (∀ c ∈ directoryText.toList, c ≠ '%') ∧ ∀ c ∈ fileText.toList, c ≠ '%' :=
    ⟨List.forall_mem_ne'.mpr (by decide +kernel), List.forall_mem_ne'.mpr (by decide +kernel)⟩
  -- The directory could not be made, which leaves two lines; or it is there and the file cannot be written.
  unfold obstacle? at met
  split at met
  · next unmade =>
    cases met
    have still := (World.noted_noted (complaint directoryText (Journal.directoryPath path) failure) opened).journal?
    have same := World.timestamp_noted opened (complaint directoryText (Journal.directoryPath path) failure)
    refine ⟨_, saveFile_of_unmade opens unmade, ?_⟩
    rw [World.err_noted_complaint (still.trans there) plain.2, World.err_noted_complaint there plain.1, same, time,
      console]
    simp only [complaints, unmade, Array.toList_push, List.append_assoc]
    rfl
  · next made =>
    have saved : (saveFile path content).on w = _ := saveFile_of_made opens made
    have still : (ensured path opened).journal? = some j := (World.noted_noted _ opened).journal?.trans there
    have same : (ensured path opened).timestamp = w.timestamp := (World.timestamp_noted opened _).trans time
    have quiet : (ensured path opened).console.err = w.console.err := by
      rw [← console]
      exact World.err_noted_debug opened _
    split at met
    · next written =>
      cases met
      rw [written] at saved
      refine ⟨_, saved, ?_⟩
      rw [World.err_noted_complaint still plain.2, same, quiet]
      simp only [complaints, made, Array.toList_push]
    · cases met

theorem getLast?_complaints (path : String) (failure : Failure) (w : World) :
    (complaints path failure w).getLast? = some (errorLine w.timestamp
      (fileText ++ path ++ if hasPlace path.toList then "" else told failure)) := by
  unfold complaints
  dsimp only
  split
  · rfl
  · rfl

theorem back?_of_complaints {after : World} {failure : Failure}
    (lines : after.console.err.toList = w.console.err.toList ++ complaints path failure w) :
    after.console.err.back? = some (errorLine w.timestamp
      (fileText ++ path ++ if hasPlace path.toList then "" else told failure)) := by
  rw [← Array.getLast?_toList, lines, List.getLast?_append, getLast?_complaints]
  rfl

end Save

/-- Where the journal can be opened, a file is saved unless there is an obstacle.  If there is one, the attempt fails
with just that, and the last line that is left of it tells that failure, by its name and its message, exactly if the
path has no place to fill. -/
theorem saveFile_complains (path : String) (content : ByteArray) (w : World) :
    match journal.on (prepared path w) with
    | (.error reason, shut) => ((saveFile path content).on w).1 = .error (reasonOf (journal.on shut).1 reason)
    | (.ok _, opened) =>
      match obstacle? path content w opened with
      | none => ((saveFile path content).on w).1 = .ok ()
      | some failure => ∃ after, (saveFile path content).on w = (.error (.error failure), after) ∧
          after.console.err.toList = w.console.err.toList ++ complaints path failure w ∧
          (after.console.err.back? = some (errorLine w.timestamp (fileText ++ path ++ told failure)) ↔
            hasPlace path.toList = false) := by
  rcases opens : journal.on (prepared path w) with ⟨reason | j, opened⟩
  · exact saveFile_of_shut opens
  · dsimp only
    cases met : obstacle? path content w opened with
    | none => exact saveFile_of_clear opens met
    | some failure =>
      obtain ⟨after, ended, lines⟩ := saveFile_of_obstacle opens met
      refine ⟨after, ended, lines, ?_⟩
      rw [back?_of_complaints lines, Option.some.injEq]
      exact errorLine_told_iff w.timestamp (fileText ++ path) failure (hasPlace path.toList)

/-- The directory stands where the file is to be written, and a percent sign in its name is followed by a letter: what
kept the file from being written is not told. -/
theorem not_told_of_every_path :
    ¬ ∀ (path : String) (content : ByteArray) (w opened : World) (j : Journal) (failure : Failure),
        journal.on (prepared path w) = (.ok j, opened) → obstacle? path content w opened = some failure →
        ∃ after, (saveFile path content).on w = (.error (.error failure), after) ∧
          after.console.err.back? = some (errorLine w.timestamp (fileText ++ path ++ told failure)) := by
  intro every
  let tree : FileTree := ⟨["home"], [(["home"], .directory), (["home", "%d0"], .directory)]⟩
  let w : World := { World.fresh [] tree with journal? := some ⟨.info, []⟩ }
  have opens : journal.on (prepared "%d0" w) = (.ok ⟨.info, []⟩, prepared "%d0" w) := journal_of_open rfl
  have kept : (obstacle? "%d0" .empty w (prepared "%d0" w)).isSome = true := by decide +kernel
  obtain ⟨failure, met⟩ := Option.isSome_iff_exists.mp kept
  obtain ⟨after, ended, tells⟩ := every "%d0" .empty w _ _ failure opens met
  obtain ⟨last, same, lines⟩ := saveFile_of_obstacle opens met
  rw [ended] at same
  cases same
  have line := Option.some.inj (tells.symm.trans (back?_of_complaints lines)).symm
  have told := (errorLine_told_iff w.timestamp (fileText ++ "%d0") failure _).mp line
  exact absurd told (by decide)

end Files
end MeteredDownload
