import MeteredDownload.Url.Basic

/-!
# Reading URLs

`Url.parse?` reads a URL, and `Url.resolve?` one that may be relative to another.  Blanks around a URL and
line ends within it do not count, and the well known schemes take a backslash for a slash.  `Url.read?` leaves
open which texts are taken for a path as they stand, and reads all others segment by segment.
-/
set_option autoImplicit false
namespace MeteredDownload.Url

def clean (s : List Char) : List Char :=
  let isEdge (c : Char) : Bool := c ≤ ' '
  let s := ((s.dropWhile isEdge).reverse.dropWhile isEdge).reverse
  s.filter fun c => c ≠ '\t' ∧ c ≠ '\n' ∧ c ≠ '\r'

def scheme? (s : List Char) : Option (List Char × List Char) :=
  let isSchemeChar (c : Char) : Bool := c.isAlphanum || c = '+' || c = '-' || c = '.'
  match s.takeWhile isSchemeChar, s.dropWhile isSchemeChar with
  | c :: name, ':' :: rest => if c.isAlpha then some ((c :: name).map Char.toLower, rest) else none
  | _, _ => none

def isSeparator (special : Bool) (c : Char) : Bool := c = '/' || (special && c = '\\')

def withSlashes (special : Bool) (s : List Char) : List Char :=
  s.map fun c => if isSeparator special c then '/' else c

def isDrive : List Char → Bool
  | [c, d] => c.isAlpha && (d = ':' || d = '|')
  | _ => false

def startsWithDrive (s : List Char) : Bool :=
  isDrive (s.take 2) && match s.drop 2 with
    | [] => true
    | c :: _ => c = '/' || c = '\\'

def isHere (segment : List Char) : Bool :=
  ["." , "%2e"].contains (String.ofList (segment.map Char.toLower))

def isAbove (segment : List Char) : Bool :=
  ["..", ".%2e", "%2e.", "%2e%2e"].contains (String.ofList (segment.map Char.toLower))

def driveText : List Char → List Char
  | [c, _] => [c, ':']
  | s => s

/-- The segments without the last; a drive at the front of a file path stays. -/
def shorten (scheme : List Char) (segments : List (List Char)) : List (List Char) :=
  match segments with
  | [[c, ':']] => if scheme = fileScheme && c.isAlpha then segments else []
  | segments => segments.dropLast

/-- Adds one segment of a path; `last` says whether nothing follows it.  A path that ends in a segment for
the place above ends in a slash, but where there is nothing above it does so in the well known schemes only. -/
def addSegment (scheme : List Char) (last : Bool) (before : List (List Char)) (segment : List Char) :
    List (List Char) :=
  let segment := encode inPath segment
  if isAbove segment then
    shorten scheme before ++ if last && (isSpecial scheme || !before.isEmpty) then [[]] else []
  else if isHere segment then before ++ if last then [[]] else []
  else if scheme = fileScheme && before.isEmpty && isDrive segment then [driveText segment]
  else before ++ [segment]

def addSegments (scheme : List Char) : List (List Char) → List (List Char) → List (List Char)
  | before, [] => before
  | before, [segment] => addSegment scheme true before segment
  | before, segment :: rest => addSegments scheme (addSegment scheme false before segment) rest

/-- Does the first segment that begins with a dot behind a slash stand for itself?  Where there is none the
answer is yes. -/
def hasPlainDot : List Char → Bool
  | '/' :: '.' :: rest =>
    match rest with
    | [] => false
    | c :: _ => c ≠ '.' && c ≠ '/'
  | _ :: rest => hasPlainDot rest
  | [] => true

/-- Is the text taken as a path at sight?  It has nothing to be encoded or decoded, and a look at its first
character and at the first segment behind it that begins with a dot shows no place here or above. -/
def isPlainPath (scheme : List Char) (s : List Char) : Bool :=
  !(s.any fun c => inPath c || c = '%' || (isSpecial scheme && c = '\\'))
    && !(scheme = fileScheme && startsWithDrive s)
    && (!s.contains '.' || (s.head? ≠ some '.' && !s.contains '\\' && hasPlainDot s))

section Reading

-- Is a text behind this scheme taken for a path as it stands?
variable (atSight : List Char → List Char → Bool)

def pathFrom (scheme : List Char) (before : List (List Char)) (s : List Char) : Path :=
  if atSight scheme s then .segments (before ++ Text.splitOn '/' s)
  else .segments (addSegments scheme before (Text.splitOn '/' (withSlashes (isSpecial scheme) s)))

/-- The path that follows an authority.  Only the well known schemes have one where nothing follows. -/
def pathAfterAuthority (scheme : List Char) (s : List Char) : Path :=
  match s with
  | [] => if isSpecial scheme then pathFrom atSight scheme [] [] else .segments []
  | c :: rest =>
    if isSeparator (isSpecial scheme) c then pathFrom atSight scheme [] rest else pathFrom atSight scheme [] s

def readPort? (scheme : List Char) (s : List Char) : Option (Option Nat) :=
  if !s.all Char.isDigit then none
  else if s.isEmpty then some none
  else
    let n := s.foldl (fun n c => 10 * n + (c.toNat - '0'.toNat)) 0
    if 65535 < n then none
    else if usualPorts.lookup scheme = some n then some none
    else some (some n)

def cutLast (separator : Char) (s : List Char) : Option (List Char) × List Char :=
  match Text.cut separator s.reverse with
  | (back, none) => (none, back.reverse)
  | (back, some front) => (some front.reverse, back.reverse)

def cutPort (inBrackets : Bool) : List Char → List Char × Option (List Char)
  | [] => ([], none)
  | c :: rest =>
    if c = ':' && !inBrackets then ([], some rest)
    else
      let (front, back?) := cutPort (if c = '[' then true else if c = ']' then false else inBrackets) rest
      (c :: front, back?)

def ofPath (scheme : List Char) (path : Path) : Url := ⟨scheme, [], [], none, none, path, none, none⟩

def withAuthority? (scheme : List Char) (s : List Char) : Option Url := do
  let special := isSpecial scheme
  let authority := s.takeWhile (!isSeparator special ·)
  let rest := s.dropWhile (!isSeparator special ·)
  let (user?, hostPort) := cutLast '@' authority
  let (username, password?) := match user? with
    | none => ([], none)
    | some user => Text.cut ':' user
  let (name, digits?) := cutPort false hostPort
  if name.isEmpty && (special || user?.isSome || digits?.isSome) then none
  else
    let host ← readHost? special name
    let port ← readPort? scheme (digits?.getD [])
    some { ofPath scheme (pathAfterAuthority atSight scheme rest) with
      username := encode inUserInfo username, password := encode inUserInfo (password?.getD []),
      host? := some host, port? := port }

def Path.names : Path → List (List Char)
  | .segments names => names
  | .verbatim _ => []

/-- The URL of a file.  `base?` is the one that it is relative to, if that is of a file too. -/
def fileUrl? (base? : Option Url) (s : List Char) : Option Url :=
  let file (host : List Char) (path : Path) : Url := { ofPath fileScheme path with host? := some host }
  let isSlash := isSeparator true
  match s with
  | a :: b :: rest =>
    if isSlash a && isSlash b then
      let name := rest.takeWhile (!isSlash ·)
      if isDrive name then some (file [] (pathFrom atSight fileScheme [] rest))
      else
        let path := pathAfterAuthority atSight fileScheme (rest.dropWhile (!isSlash ·))
        if name.isEmpty then some (file [] path)
        else (readHost? true name).map fun host =>
          file (if host = "localhost".toList then [] else host) path
    else relative file a (b :: rest)
  | [a] => relative file a []
  | [] =>
    match base? with
    | none => some (file [] (pathFrom atSight fileScheme [] []))
    | some base => some { base with fragment? := none }
where
  relative (file : List Char → Path → Url) (first : Char) (rest : List Char) : Option Url :=
    let base := base?.getD (file [] (.segments []))
    let host := base.host?.getD []
    if isSeparator true first then
      let drive := match base.path.names with
        | [c, ':'] :: _ => if c.isAlpha && !startsWithDrive rest then [[c, ':']] else []
        | _ => []
      some (file host (pathFrom atSight fileScheme drive rest))
    else if startsWithDrive (first :: rest) then some (file host (pathFrom atSight fileScheme [] (first :: rest)))
    else some (file host (pathFrom atSight fileScheme (shorten fileScheme base.path.names) (first :: rest)))

/-- The URL that a text without a scheme leads to from another.  An empty text leads to the other itself. -/
def relative? (base : Url) (s : List Char) : Option Url :=
  let special := isSpecial base.scheme
  let here (path : Path) : Url := { base with path, query? := none, fragment? := none }
  match s with
  | [] => some { base with fragment? := none }
  | a :: rest =>
    if isSeparator special a then
      match rest with
      | b :: after =>
        if isSeparator special b then
          withAuthority? atSight base.scheme (if special then after.dropWhile (isSeparator special) else after)
        else some (here (pathFrom atSight base.scheme [] rest))
      | [] => some (here (pathFrom atSight base.scheme [] rest))
    else some (here (pathFrom atSight base.scheme (shorten base.scheme base.path.names) s))

def afterScheme? (base? : Option Url) (scheme s : List Char) : Option Url :=
  let sameBase? := base?.filter fun base => base.scheme = scheme
  let absolute? := withAuthority? atSight scheme (s.dropWhile (isSeparator true))
  if scheme = fileScheme then fileUrl? atSight sameBase? s
  else if isSpecial scheme then
    match sameBase? with
    | some base => if s.take 2 = ['/', '/'] then absolute? else relative? atSight base s
    | none => absolute?
  else
    match s with
    | '/' :: '/' :: rest => withAuthority? atSight scheme rest
    | '/' :: rest => some (ofPath scheme (pathFrom atSight scheme [] rest))
    | s => some (ofPath scheme (.verbatim (encode isControl s)))

def read? (base? : Option Url) (text : List Char) : Option Url := do
  let (body, fragment?) := Text.cut '#' (clean text)
  let (main, query?) := Text.cut '?' body
  let u ← match scheme? main with
    | some (scheme, rest) => afterScheme? atSight base? scheme rest
    | none =>
      match base? with
      | none => none
      | some base =>
        match base.path with
        | .verbatim _ =>
          if main.isEmpty && query?.isNone && fragment?.isSome then some { base with fragment? := none }
          else none
        | .segments _ => if base.scheme = fileScheme then fileUrl? atSight base main else relative? atSight base main
  let set := if isSpecial u.scheme then inSpecialQuery else inQuery
  return { u with query? := (query?.map (encode set)).or u.query?,
                  fragment? := fragment?.map (encode inFragment) }

end Reading

/-- Here paths that look plain are taken as they stand. -/
def resolve? (base? : Option Url) (text : List Char) : Option Url := read? isPlainPath base? text

def parse? (text : String) : Option Url := resolve? none text.toList

end MeteredDownload.Url
