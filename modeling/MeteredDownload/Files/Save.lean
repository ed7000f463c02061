import MeteredDownload.World

/-!
# Saving files

Directories are made and files are written; a note is made of what was done, and of what could not be
done before the failure is passed on.
-/
set_option autoImplicit false
namespace MeteredDownload.Files

open Log

def ensureDirectory (path : String) : Program Unit := do
  let (tree, failure?) := (← get).tree.makeDirectory path
  modify fun w => { w with tree }
  match failure? with
  | none => Program.note (.debug ("Directory ensured: " ++ path))
  | some failure =>
    Program.note (.error ("Failed to create directory: " ++ path) [("error", failure)])
    Program.fail failure

def writeContent (path : String) (content : ByteArray) : Program Unit := do
  match (← get).tree.writeFile path content with
  | .error failure => Program.fail failure
  | .ok tree => modify fun w => { w with tree }

def saveFile (path : String) (content : ByteArray) : Program Unit :=
  tryCatch
    (do
      ensureDirectory (Journal.directoryPath path)
      writeContent path content
      Program.note (.debug ("Wrote file: " ++ path)))
    (fun reason => do
      Program.note (.error ("Failed to write file: " ++ path) [("error", reason)])
      throw reason)

end MeteredDownload.Files
