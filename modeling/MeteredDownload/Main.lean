import MeteredDownload.CommandLine
import Std.Time.Format

/-!
# The program

`main` makes a world of the environment and of the files that a run can touch, runs the command line in it,
shows what it has shown, and writes the files that it has changed.  There is no network: only what can be had
without one is downloaded.
-/
set_option autoImplicit false
namespace MeteredDownload.Main

open Numeric Files

def settingNames : List String :=
  ["DOWNLOAD_USER_AGENT", "DOWNLOAD_CERT", "DOWNLOAD_CHUNK_SIZE", "LOG_LEVEL", "LOG_FILE"]

def proxyNames : List String :=
  let schemes := Url.usualPorts.map fun (scheme, _) => String.ofList scheme
  ["npm_config_no_proxy", "no_proxy", "npm_config_proxy", "all_proxy"]
    ++ schemes.flatMap fun scheme => ["npm_config_" ++ scheme ++ "_proxy", scheme ++ "_proxy"]

def readEnvironment : IO Environment := do
  let names := settingNames ++ proxyNames ++ proxyNames.map fun name => name.map Char.toUpper
  names.filterMapM fun name => return (← IO.getEnv name).map (name, ·)

def pathsOf (environment : Environment) (arguments : List String) : List String :=
  let settings := Settings.ofEnvironment environment
  let arguments? := Arguments.parse? arguments
  let paths := [settings.download.certificate?, settings.logging.file?,
    arguments?.bind (·.certificate?), arguments?.map CommandLine.output]
  paths.filterMap id

def rootPath (place : Place) : String := "/" ++ String.intercalate "/" place

def look (t : FileTree) (place : Place) : IO FileTree := do
  let path := (← IO.currentDir) / rootPath place
  if ← path.isDir then return t.insert place .directory
  else if ← path.pathExists then return t.insert place (.file (← IO.FS.readBinFile path))
  else return t

def lookAlong (t : FileTree) (path : String) : IO FileTree := do
  let (t, _) ← (namesOf path).foldlM step (t, t.origin path)
  return t
where
  step (state : FileTree × Place) (name : String) : IO (FileTree × Place) := do
    let place := FileTree.beside state.2 name
    return (← look state.1 place, place)

def store (before after : FileTree) : IO Unit := do
  for (place, entry) in after.entries do
    let path := (← IO.currentDir) / rootPath place
    match entry, before.entry? place with
    | .directory, none => IO.FS.createDirAll path
    | .directory, some _ => pure ()
    | .file content, some (.file old) => if content != old then IO.FS.writeBinFile path content
    | .file content, _ => IO.FS.writeBinFile path content
    | .link _, _ | .twin _, _ => pure ()

/-- Shows what a run has shown; after an error it has written no more to the status line. -/
def present (w : World) : IO Unit := do
  for line in w.console.out do IO.println line
  for terminal in w.terminals do
    for written in terminal.written do IO.eprint written.chunk
  for line in w.console.err do IO.eprintln line

def timestampOf (time : Std.Time.Timestamp) : String :=
  (Std.Time.DateTime.ofTimestampWithZone time .UTC).format "uuuu-MM-dd'T'HH:mm:ss.SSS'Z'"

def unconnected : Http.Wire := fun _ _ => .error ⟨"network is unreachable", some "ENETUNREACH"⟩

def run (arguments : List String) : IO UInt32 := do
  let environment ← readEnvironment
  let home := namesOf (← IO.currentDir).toString
  let tree ← (pathsOf environment arguments).foldlM lookAlong (.empty home)
  let time ← Std.Time.Timestamp.now
  let wall : Stopwatch := ⟨.ofInt time.toMillisecondsSinceUnixEpoch.val, 0⟩
  let world := { World.fresh environment tree with
    timestamp := timestampOf time, times := ⟨⟨0, 0⟩, wall, true⟩ }
  let (result, after) := (CommandLine.run (Http.respond unconnected) arguments).run.run world
  present after
  store tree after.tree
  match result with
  | .ok code => return code.toUInt32
  | .error reason =>
    IO.eprintln reason.asText
    return 1

end MeteredDownload.Main

def main (arguments : List String) : IO UInt32 := MeteredDownload.Main.run arguments
