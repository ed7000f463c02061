import MeteredDownload.Text.Split

/-!
# Paths

A path is a text of names with slashes between them.  `directoryOf` and `baseName` split off the last name;
slashes at the end do not count.
-/
set_option autoImplicit false
namespace MeteredDownload.Files

def isSlash (c : Char) : Bool := c = '/'

def baseName (path : List Char) : List Char :=
  ((path.reverse.dropWhile isSlash).takeWhile (!isSlash ·)).reverse

def directoryOf (path : List Char) : List Char :=
  match (path.reverse.dropWhile isSlash).dropWhile (!isSlash ·) with
  | [] => if path.head? = some '/' then ['/'] else ['.']
  | ['/'] => ['/']
  | ['/', '/'] => ['/', '/']
  | _ :: rest => rest.reverse

def namesOf (path : String) : List String :=
  ((Text.splitOn '/' path.toList).filter (!·.isEmpty)).map String.ofList

def endsInSlash (path : String) : Bool := path.toList.getLast? = some '/'

def isAbsolute (path : String) : Bool := path.toList.head? = some '/'

def hasNull (path : String) : Bool := path.toList.contains '\x00'

def isDot (name : String) : Bool := name = "."

def isDots (name : String) : Bool := name = ".."

def maxNameSize : Nat := 255

def maxPathSize : Nat := 4095

/-- How many symbolic links are followed on the way to the end of one path. -/
def maxLinks : Nat := 40

end MeteredDownload.Files
