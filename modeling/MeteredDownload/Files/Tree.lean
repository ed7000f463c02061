import MeteredDownload.Value
import MeteredDownload.Files.Path

/-!
# File trees

A tree maps places to directories, files and links.  A place is the list of names that leads to it from the root,
and paths that do not begin at the root begin at `home`.  A path is walked name by name; where a symbolic link
stands, the names of its own path are walked before those that are left (`FileTree.walk`).
-/
set_option autoImplicit false
namespace MeteredDownload.Files

/-- The names that lead from the root to a place. -/
abbrev Place := List String

inductive Entry where
  | directory
  | file (content : ByteArray)
  | link (path : String)
  /-- One more name of the file at another place. -/
  | twin (place : Place)

/-- A tree of directories, files and links.  The root is always there. -/
structure FileTree where
  home : Place
  entries : List (Place × Entry)

namespace FileTree

def empty (home : Place) : FileTree :=
  ⟨home, (List.range home.length).map fun n => (home.take (n + 1), .directory)⟩

def entry? (t : FileTree) (place : Place) : Option Entry :=
  if place = [] then some .directory else t.entries.lookup place

def put (place : Place) (entry : Entry) : List (Place × Entry) → List (Place × Entry)
  | [] => [(place, entry)]
  | (p, e) :: rest => if p = place then (p, entry) :: rest else (p, e) :: put place entry rest

def insert (place : Place) (entry : Entry) (t : FileTree) : FileTree :=
  { t with entries := put place entry t.entries }

def start (place : Place) (path : String) : Place := if isAbsolute path then [] else place

def origin (t : FileTree) (path : String) : Place := start t.home path

def beside (place : Place) (name : String) : Place :=
  if isDot name then place else if isDots name then place.dropLast else place ++ [name]

def acceptable (path : String) : Except FileFault Unit :=
  if path.isEmpty then .error .missing
  else if maxPathSize < path.utf8ByteSize then .error .nameTooLong
  else .ok ()

/-- Where the file at a place has its content. -/
def seat? (t : FileTree) (place : Place) : Option Place :=
  match t.entry? place with
  | some (.file _) => some place
  | some (.twin other) =>
    match t.entry? other with
    | some (.file _) => some other
    | _ => none
  | _ => none

/-- Walks along names up to the next link, behind which `jump` goes on.  If the path insists, there has to be a
directory at its end; a file that is to be created may be missing there. -/
def stride (t : FileTree) (creating : Bool) (jump : Place → Bool → List String → Except FileFault Place) :
    Place → Bool → List String → Except FileFault Place
  | place, _, [] => .ok place
  | place, insists, name :: rest =>
    let next := beside place name
    if creating && rest.isEmpty && (insists || isDot name || isDots name) then .error .isDirectory
    else if maxNameSize < name.utf8ByteSize then .error .nameTooLong
    else match t.entry? next with
      | some .directory => stride t creating jump next insists rest
      | some (.link path) => do
        acceptable path
        jump (start place path) (insists || rest.isEmpty && endsInSlash path) (namesOf path ++ rest)
      | some _ =>
        match t.seat? next with
        | some seat => if insists || !rest.isEmpty then .error .notDirectory else .ok seat
        | none => .error .missing
      | none => if creating && rest.isEmpty then .ok next else .error .missing

def walk (t : FileTree) (creating : Bool) : Nat → Place → Bool → List String → Except FileFault Place
  | 0 => t.stride creating fun _ _ _ => .error .tooManyLinks
  | links + 1 => t.stride creating (t.walk creating links)

def locate (creating : Bool) (path : String) (t : FileTree) : Except FileFault Place := do
  acceptable path
  t.walk creating maxLinks (t.origin path) (endsInSlash path) (namesOf path)

def hasDirectory (place : Place) (t : FileTree) : Bool :=
  match t.entry? place with
  | some .directory => true
  | _ => false

theorem hasDirectory_iff {place : Place} {t : FileTree} :
    t.hasDirectory place = true ↔ t.entry? place = some .directory := by
  unfold hasDirectory
  split <;> simp_all

def isThere (path : String) (t : FileTree) : Bool := !hasNull path && (t.locate false path).isOk

def filePlace (path : String) (t : FileTree) : Except FileFault Place := do
  let place ← t.locate true path
  if t.hasDirectory place then .error .isDirectory else .ok place

def contentAt (place : Place) (t : FileTree) : ByteArray :=
  match t.entry? place with
  | some (.file content) => content
  | _ => .empty

def changeFile (path : String) (change : ByteArray → ByteArray) (t : FileTree) :
    Except Failure FileTree :=
  if hasNull path then .error (.pathWithNull path)
  else match t.filePlace path with
    | .error fault => .error (.fileSystem fault "open" (some path))
    | .ok place => .ok (t.insert place (.file (change (t.contentAt place))))

def writeFile (path : String) (content : ByteArray) (t : FileTree) : Except Failure FileTree :=
  t.changeFile path fun _ => content

def appendFile (path : String) (content : ByteArray) (t : FileTree) : Except Failure FileTree :=
  t.changeFile path (· ++ content)

def readFile (path : String) (t : FileTree) : Except Failure ByteArray :=
  if hasNull path then .error (.pathWithNull path)
  else match t.locate false path with
    | .error fault => .error (.fileSystem fault "open" (some path))
    | .ok place =>
      if t.hasDirectory place then .error (.fileSystem .isDirectory "read" none)
      else .ok (t.contentAt place)

end FileTree
end MeteredDownload.Files
