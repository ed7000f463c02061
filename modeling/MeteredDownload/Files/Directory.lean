import MeteredDownload.Files.Tree

/-!
# Making directories

A directory is made with all those that lead to it: the paths that lead to it are climbed back from the longest one to
one in front of which nothing is missing, and from there on each is made.  A path at which something stands already
is passed over if that is a directory.
-/
set_option autoImplicit false
namespace MeteredDownload.Files.FileTree

/-- Makes the one directory at the end of a path.  A link there is not followed. -/
def makeOne (path : String) (t : FileTree) : Except FileFault FileTree := do
  acceptable path
  match (namesOf path).getLast? with
  | none => .error .occupied
  | some name =>
    let directory ← t.walk false maxLinks (t.origin path) true (namesOf path).dropLast
    if isDot name || isDots name then .error .occupied
    else if maxNameSize < name.utf8ByteSize then .error .nameTooLong
    else if (t.entry? (directory ++ [name])).isSome then .error .occupied
    else .ok (t.insert (directory ++ [name]) .directory)

def fronts : List Char → List (List Char)
  | [] => []
  | c :: rest => (if isSlash c then [[]] else []) ++ (fronts rest).map (c :: ·)

def climb (t : FileTree) : List String → List String → List String
  | [], behind => behind
  | path :: shorter, behind =>
    match t.makeOne path with
    | .error .missing => climb t shorter (path :: behind)
    | _ => path :: behind

/-- What is in the way where a directory could not be made: `last` is the path that is asked for, and what keeps a
link in front of it from leading anywhere is told as `blocked`. -/
def obstacle? (t : FileTree) (blocked : FileFault → FileFault) (last : Bool) (path : String) :
    FileFault → Option FileFault
  | .missing => some .missing
  | .notDirectory => some .notDirectory
  | fault =>
    let inner := !last && fault = .occupied
    match t.locate false path with
    | .ok place =>
      if t.hasDirectory place then none else some (if inner then .notDirectory else .occupied)
    | .error other => some (if inner then blocked other else other)

/-- Makes the directories at the ends of paths, each of which leads to the next.  What was made before an obstacle was
met stays. -/
def descend (blocked : FileFault → FileFault) : List String → FileTree → FileTree × Option (FileFault × String)
  | [], t => (t, none)
  | path :: rest, t =>
    match t.makeOne path with
    | .ok t => descend blocked rest t
    | .error fault =>
      match t.obstacle? blocked rest.isEmpty path fault with
      | none => descend blocked rest t
      | some fault => (t, some (fault, path))

def makeAll (blocked : FileFault → FileFault) (path : String) (t : FileTree) :
    FileTree × Option (FileFault × String) :=
  let shorter := ((fronts path.toList).map String.ofList).reverse
  descend blocked (t.climb (path :: shorter) []) t

def makeDirectory (path : String) (t : FileTree) : FileTree × Option Failure :=
  if hasNull path then (t, some (.pathWithNull path))
  else
    let (t, obstacle?) := t.makeAll (fun _ => .notDirectory) path
    (t, obstacle?.map fun (fault, place) => .fileSystem fault "mkdir" (some place))

/-- Makes a directory while nothing else happens; that tells of obstacles in another way. -/
def makeDirectoryAtOnce (path : String) (t : FileTree) : FileTree × Option Failure :=
  if hasNull path then (t, some (.pathWithNull path))
  else
    let (t, obstacle?) := t.makeAll id path
    (t, obstacle?.map fun (fault, _) => .fileSystem fault "mkdir" (some path))

end MeteredDownload.Files.FileTree
