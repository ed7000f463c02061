import MeteredDownload.Files.Directory
import MeteredDownload.Log.Record
import MeteredDownload.Settings

/-!
# Journals

A journal keeps the records of its level and above: it shows them on the console and adds them to the ends
of its files.  `Journal.redirect` puts a new file in the place of the one in use.
-/
set_option autoImplicit false
namespace MeteredDownload.Log

open Files

structure Journal where
  level : Level
  files : List String
  deriving DecidableEq, Repr

namespace Journal

def directoryPath (path : String) : String := String.ofList (directoryOf path.toList)

/-- The path of a log file: slashes at its end do not count. -/
def filePath (path : String) : String :=
  let name := String.ofList (baseName path.toList)
  if directoryPath path = "." then name else directoryPath path ++ "/" ++ name

def touch (path : String) (t : FileTree) : Except Failure FileTree :=
  if hasNull path then .error (.pathWithNull path)
  else match t.appendFile path .empty with
    | .ok t => .ok t
    | .error _ => .ok t

def prepareDirectory (path : String) (t : FileTree) : FileTree × Option Failure :=
  if t.isThere (directoryPath path) then (t, none) else t.makeDirectoryAtOnce (directoryPath path)

def ofSettings (settings : LogSettings) (t : FileTree) : FileTree × Except Failure Journal :=
  let level := settings.level?.getD .info
  match settings.file? with
  | none | some "" => (t, .ok ⟨level, []⟩)
  | some path =>
    match prepareDirectory path t with
    | (t, some failure) => (t, .error failure)
    | (t, none) =>
      match touch (filePath path) t with
      | .error failure => (t, .error failure)
      | .ok t => (t, .ok ⟨level, [filePath path]⟩)

/-- Puts another file in the place of the first in use.  If its directory cannot be made, the journal stays
as it is. -/
def redirect (path : String) (j : Journal) (t : FileTree) : FileTree × Journal × Option Failure :=
  match t.makeDirectory (directoryPath path) with
  | (t, some failure) => (t, j, some failure)
  | (t, none) =>
    let others := { j with files := j.files.tail }
    if path.isEmpty then (t, others, some .unnamedLogFile)
    else match touch (filePath path) t with
      | .error failure => (t, others, some failure)
      | .ok t => (t, { others with files := others.files ++ [filePath path] }, none)

def admits (j : Journal) (r : Record) : Bool := j.level.admits r.level && !r.isException

/-- Adds a record to the files in use.  A file that cannot be written to is passed over. -/
def writeFiles (timestamp : String) (r : Record) (j : Journal) (t : FileTree) : FileTree :=
  let line := (r.fileLine timestamp ++ "\n").toUTF8
  j.files.foldl (fun t path => match t.appendFile path line with
    | .ok t => t
    | .error _ => t) t

end Journal
end MeteredDownload.Log
