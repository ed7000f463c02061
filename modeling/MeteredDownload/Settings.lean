import MeteredDownload.Http.ContentLength
import MeteredDownload.Log.Level

/-!
# Settings

Settings come from the environment, once, when they are first asked for.  An update replaces whole
sections; `DownloadSettings.merge` and `LogSettings.merge` fill a partial section up from another.
-/
set_option autoImplicit false
namespace MeteredDownload

open Numeric Text

def version : String := "1.0.0"

abbrev Environment := List (String × String)

/-- How downloads are made.  A section that an update has replaced may lack any of these. -/
structure DownloadSettings where
  userAgent? : Option String := none
  certificate? : Option String := none
  chunkSize? : Option Binary64 := none
  speedSamples? : Option Binary64 := none
  tickInterval? : Option Binary64 := none
  deriving DecidableEq, Repr

structure LogSettings where
  level? : Option Log.Level := none
  file? : Option String := none
  deriving DecidableEq, Repr

structure Settings where
  download : DownloadSettings
  logging : LogSettings
  deriving DecidableEq, Repr

/-- Digits with a sign in front of them, after blanks; what follows the digits is ignored. -/
def leadingInteger? (s : String) : Option Binary64 :=
  let (negative, rest) := match trimStart s.toList with
    | '-' :: rest => (true, rest)
    | '+' :: rest => (false, rest)
    | rest => (false, rest)
  let digits := rest.takeWhile Char.isDigit
  if digits.isEmpty then none
  else
    let x := Binary64.ofNat (Http.decimalValue digits)
    some (if negative then -x else x)

def positiveSetting? (s : String) : Option Binary64 :=
  (leadingInteger? s).filter fun x => x.isInteger && Binary64.lt 0 x

def defaultChunkSize : Binary64 := 8192
def defaultTickInterval : Binary64 := 1000

def defaultUserAgent : String := "download-tracker/" ++ version

namespace DownloadSettings

/-- The section by the environment.  A certificate path that is empty counts as none. -/
def ofEnvironment (env : Environment) : DownloadSettings where
  userAgent? := some ((env.lookup "DOWNLOAD_USER_AGENT").getD defaultUserAgent)
  certificate? := (env.lookup "DOWNLOAD_CERT").filter fun path => !path.isEmpty
  chunkSize? :=
    some (((env.lookup "DOWNLOAD_CHUNK_SIZE").bind positiveSetting?).getD defaultChunkSize)
  speedSamples? := some 5
  tickInterval? := some defaultTickInterval

def merge (updates current : DownloadSettings) : DownloadSettings where
  userAgent? := updates.userAgent?.or current.userAgent?
  certificate? := updates.certificate?.or current.certificate?
  chunkSize? := updates.chunkSize?.or current.chunkSize?
  speedSamples? := updates.speedSamples?.or current.speedSamples?
  tickInterval? := updates.tickInterval?.or current.tickInterval?

end DownloadSettings

namespace LogSettings

/-- A level that is none of the known names counts as `info`. -/
def ofEnvironment (env : Environment) : LogSettings where
  level? := some (((env.lookup "LOG_LEVEL").bind Log.Level.ofName?).getD .info)
  file? := env.lookup "LOG_FILE"

def merge (updates current : LogSettings) : LogSettings where
  level? := updates.level?.or current.level?
  file? := updates.file?.or current.file?

end LogSettings

namespace Settings

def ofEnvironment (env : Environment) : Settings :=
  ⟨.ofEnvironment env, .ofEnvironment env⟩

def update (download? : Option DownloadSettings) (logging? : Option LogSettings) (s : Settings) :
    Settings :=
  ⟨download?.getD s.download, logging?.getD s.logging⟩

/-- Replaces the sections that are given, each filled up from the one that it replaces. -/
def merge (download? : Option DownloadSettings) (logging? : Option LogSettings) (s : Settings) :
    Settings :=
  s.update (download?.map (·.merge s.download)) (logging?.map (·.merge s.logging))

end Settings

/-- The place where a process keeps its settings once they are loaded.  `generation` counts how often
they have been forgotten. -/
structure SettingsCell where
  generation : Nat
  settings? : Option Settings
  deriving DecidableEq, Repr

namespace SettingsCell

def empty : SettingsCell := ⟨0, none⟩

def current (env : Environment) (cell : SettingsCell) : Settings :=
  cell.settings?.getD (.ofEnvironment env)

def load (env : Environment) (cell : SettingsCell) : SettingsCell :=
  { cell with settings? := some (cell.current env) }

def modify (env : Environment) (change : Settings → Settings) (cell : SettingsCell) : SettingsCell :=
  { cell with settings? := some (change (cell.current env)) }

def forget (cell : SettingsCell) : SettingsCell := ⟨cell.generation + 1, none⟩

end SettingsCell
end MeteredDownload
