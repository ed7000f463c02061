import MeteredDownload.Arguments
import MeteredDownload.Files.Save
import MeteredDownload.Http.Download

/-!
# The command line

The program downloads one URL to one file.  A file is written only when all of the body has come.
-/
set_option autoImplicit false
namespace MeteredDownload.CommandLine

open Log

def fallbackName : String := "download.bin"

def nameOf (url? : Option Url) : String :=
  match url? with
  | none => fallbackName
  | some u =>
    match Files.baseName u.pathname with
    | [] => fallbackName
    | name => String.ofList name

def defaultOutput (url : String) : String := nameOf (Url.parse? url)

def usage : String := "Usage: download <url> [output] [--cert <pem-file>]"

def output (a : Arguments) : String := a.output?.getD (defaultOutput a.url)

def fetchAndSave (transport : Http.Transport) (a : Arguments) : Program Unit := do
  let path := output a
  let downloader ← Http.Downloader.create
  let store ← downloader.get transport {} a.url
  Files.saveFile path store.cells
  Program.note (.info ("Saved " ++ toString store.cells.size ++ " bytes to " ++ path))

def configure (a : Arguments) : Program Unit := do
  let s ← Program.settings
  match a.certificate? with
  | none | some "" => return
  | some path =>
    Program.updateSettings (Settings.update (some { s.download with certificate? := some path }) none)

def run (transport : Http.Transport) (arguments : List String) : Program UInt8 := do
  match Arguments.parse? arguments with
  | none =>
    Program.writeError (usage ++ "\n")
    return 1
  | some a =>
    configure a
    tryCatch
      (do
        fetchAndSave transport a
        return 0)
      (fun reason => do
        if reason.isNotFound then Program.note (.error ("Nothing found at " ++ a.url))
        return 1)

end MeteredDownload.CommandLine
