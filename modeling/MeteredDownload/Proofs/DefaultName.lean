import MeteredDownload.CommandLine
import MeteredDownload.Proofs.FileTree

/-!
# The name of a file for a URL

Read segment by segment (`Url.standard?`), the path of a web address has no segment that stands for a place here or
above, and no segment holds a slash.  So its last name is a name in the directory at hand, whatever the address looks
like (`CommandLine.nameOf_standard_isName`).  The reader at hand takes some paths as they stand, with all that is in
them; where it does not, its names are the same.
-/
set_option autoImplicit false
namespace MeteredDownload

/-! ## The last name of a path -/

namespace Files

theorem slash_not_mem_baseName (path : List Char) : '/' ∉ baseName path := by
  intro member
  have other := List.mem_takeWhile_imp (List.mem_reverse.mp member)
  simp [isSlash] at other

theorem baseName_append_slash (path : List Char) : baseName (path ++ ['/']) = baseName path := by
  simp [baseName, isSlash]

theorem baseName_append_name (path : List Char) {name : List Char} (filled : name ≠ []) (plain : '/' ∉ name) :
    baseName (path ++ '/' :: name) = name := by
  obtain ⟨last, front, same⟩ := List.exists_cons_of_ne_nil (List.reverse_ne_nil_iff.mpr filled)
  have other : ∀ c ∈ last :: front, isSlash c = false := by
    intro c member
    rw [← same, List.mem_reverse] at member
    simp only [isSlash, decide_eq_false_iff_not]
    rintro rfl
    exact plain member
  have kept : (path ++ '/' :: name).reverse.dropWhile isSlash = name.reverse ++ '/' :: path.reverse := by
    rw [List.reverse_append, List.reverse_cons, List.append_assoc, same, List.cons_append, List.dropWhile_cons,
      other last List.mem_cons_self]
    rfl
  have taken : (name.reverse ++ '/' :: path.reverse).takeWhile (!isSlash ·) = name.reverse := by
    rw [List.takeWhile_append_of_pos]
    · simp [isSlash]
    · intro c member
      rw [other c (same ▸ member)]
      rfl
  rw [baseName, kept, taken, List.reverse_reverse]

theorem baseName_of_segments {names : List (List Char)} (plain : ∀ name ∈ names, '/' ∉ name) :
    baseName (names.flatMap ('/' :: ·)) = [] ∨ baseName (names.flatMap ('/' :: ·)) ∈ names := by
  induction names using List.reverseRecOn with
  | nil => exact .inl rfl
  | append_singleton names name ih =>
    rw [List.forall_mem_append] at plain
    rw [List.flatMap_append, List.flatMap_singleton, List.mem_append]
    by_cases empty : name = []
    · rw [empty, baseName_append_slash]
      exact (ih plain.1).imp_right .inl
    · rw [baseName_append_name _ empty (plain.2 name List.mem_cons_self)]
      exact .inr (.inr List.mem_cons_self)

end Files

/-! ## Segments -/

namespace Text

theorem not_mem_of_mem_splitOn {separator : Char} {text part : List Char} (member : part ∈ splitOn separator text) :
    separator ∉ part := by
  induction text generalizing part with
  | nil =>
    rw [List.mem_singleton.mp member]
    exact List.not_mem_nil
  | cons c rest ih =>
    unfold splitOn at member
    split at member
    · rcases List.mem_cons.mp member with rfl | later
      · exact List.not_mem_nil
      · exact ih later
    · next other =>
      split at member
      · next parts => exact absurd parts (Files.splitOn_ne_nil separator rest)
      · next first more parts =>
        rcases List.mem_cons.mp member with rfl | later
        · have absent : separator ∉ first := ih (parts ▸ List.mem_cons_self)
          exact fun found => (List.mem_cons.mp found).elim (fun same => other same.symm) absent
        · exact ih (parts ▸ List.mem_cons_of_mem _ later)

end Text

namespace Url

theorem slash_not_mem_escapeByte (b : UInt8) : '/' ∉ escapeByte b := by
  have all : ∀ n : Fin 256, '/' ∉ escapeByte (.ofFin n) := by decide +kernel
  exact all b.toFin

theorem slash_not_mem_encode {set : Char → Bool} {s : List Char} (plain : '/' ∉ s) : '/' ∉ encode set s := by
  intro member
  obtain ⟨c, within, found⟩ := List.mem_flatMap.mp member
  split at found
  · obtain ⟨b, -, encoded⟩ := List.mem_flatMap.mp found
    exact slash_not_mem_escapeByte b encoded
  · rw [List.mem_singleton.mp found] at plain
    exact plain within

structure IsPlain (segment : List Char) : Prop where
  name : '/' ∉ segment
  here : isHere segment = false
  above : isAbove segment = false

theorem isPlain_nil : IsPlain [] := ⟨List.not_mem_nil, by decide, by decide⟩

section Segments
variable {scheme : List Char} {before segments : List (List Char)} {segment : List Char}

theorem shorten_subset (scheme : List Char) (segments : List (List Char)) : shorten scheme segments ⊆ segments := by
  unfold shorten
  split
  · split
    · exact List.Subset.refl _
    · exact List.nil_subset _
  · exact List.dropLast_subset _

theorem isPlain_addSegment (other : scheme ≠ fileScheme) (last : Bool) (plain : ∀ name ∈ before, IsPlain name)
    (name : '/' ∉ segment) : ∀ name ∈ addSegment scheme last before segment, IsPlain name := by
  have empty : ∀ ends : Bool, ∀ name ∈ if ends then [[]] else ([] : List (List Char)), IsPlain name := by
    intro ends name member
    cases ends with
    | false => cases member
    | true =>
      rw [List.mem_singleton.mp member]
      exact isPlain_nil
  unfold addSegment
  dsimp only
  split
  · exact List.forall_mem_append.mpr ⟨fun name member => plain name (shorten_subset scheme before member), empty _⟩
  split
  · exact List.forall_mem_append.mpr ⟨plain, empty last⟩
  split
  · next drive => simp [other] at drive
  · next above here _ =>
    refine List.forall_mem_append.mpr ⟨plain, fun added member => ?_⟩
    rw [List.mem_singleton.mp member]
    exact ⟨slash_not_mem_encode name, by simpa using here, by simpa using above⟩

theorem isPlain_addSegments (other : scheme ≠ fileScheme) (plain : ∀ name ∈ before, IsPlain name)
    (names : ∀ segment ∈ segments, '/' ∉ segment) : ∀ name ∈ addSegments scheme before segments, IsPlain name := by
  induction segments generalizing before with
  | nil => exact plain
  | cons segment rest ih =>
    rw [List.forall_mem_cons] at names
    cases rest with
    | nil => exact isPlain_addSegment other true plain names.1
    | cons next rest => exact ih (isPlain_addSegment other false plain names.1) names.2

end Segments

def bySegments : List Char → List Char → Bool := fun _ _ => false

/-- The URL that a text names, with its path read segment by segment. -/
def standard? (text : String) : Option Url := read? bySegments none text.toList

def Path.IsPlain (path : Path) : Prop := ∃ names, path = .segments names ∧ ∀ name ∈ names, Url.IsPlain name

section Paths
variable {scheme : List Char}

theorem isPlain_pathFrom (other : scheme ≠ fileScheme) (s : List Char) :
    (pathFrom bySegments scheme [] s).IsPlain :=
  ⟨_, rfl, isPlain_addSegments other nofun fun _ member => Text.not_mem_of_mem_splitOn member⟩

theorem isPlain_pathAfterAuthority (other : scheme ≠ fileScheme) (s : List Char) :
    (pathAfterAuthority bySegments scheme s).IsPlain := by
  unfold pathAfterAuthority
  split
  · split
    · exact isPlain_pathFrom other []
    · exact ⟨[], rfl, nofun⟩
  · split <;> exact isPlain_pathFrom other _

theorem withAuthority?_eq_some {atSight : List Char → List Char → Bool} {s : List Char} {u : Url}
    (found : withAuthority? atSight scheme s = some u) :
    u.scheme = scheme ∧ ∃ rest, u.path = pathAfterAuthority atSight scheme rest := by
  unfold withAuthority? at found
  dsimp only at found
  split at found
  · cases found
  · obtain ⟨host, -, found⟩ := Option.bind_eq_some_iff.mp found
    obtain ⟨port, -, found⟩ := Option.bind_eq_some_iff.mp found
    obtain rfl := Option.some.inj found
    exact ⟨rfl, _, rfl⟩

theorem scheme_fileUrl? {atSight : List Char → List Char → Bool} {s : List Char} {u : Url}
    (found : fileUrl? atSight none s = some u) : u.scheme = fileScheme := by
  have relative : ∀ first rest, fileUrl?.relative atSight none
      (fun host path => { ofPath fileScheme path with host? := some host }) first rest = some u →
      u.scheme = fileScheme := by
    intro first rest found
    unfold fileUrl?.relative at found
    dsimp only at found
    split at found
    · cases found
      rfl
    · split at found <;> cases found <;> rfl
  unfold fileUrl? at found
  dsimp only at found
  split at found
  · split at found
    · split at found
      · cases found
        rfl
      split at found
      · cases found
        rfl
      · obtain ⟨host, -, rfl⟩ := Option.map_eq_some_iff.mp found
        rfl
    · exact relative _ _ found
  · exact relative _ _ found
  · cases found
    rfl

theorem scheme_afterScheme? {atSight : List Char → List Char → Bool} {s : List Char} {u : Url}
    (found : afterScheme? atSight none scheme s = some u) : u.scheme = scheme := by
  unfold afterScheme? at found
  dsimp only [Option.filter_none] at found
  split at found
  · next file =>
    rw [file]
    exact scheme_fileUrl? found
  split at found
  · exact (withAuthority?_eq_some found).1
  split at found
  · exact (withAuthority?_eq_some found).1
  · cases found
    rfl
  · cases found
    rfl

def IsWeb (scheme : List Char) : Prop := scheme = "http".toList ∨ scheme = "https".toList

theorem IsWeb.special (web : IsWeb scheme) : scheme ≠ fileScheme ∧ isSpecial scheme = true := by
  rcases web with rfl | rfl <;> decide +kernel

theorem isPlain_afterScheme? {s : List Char} {u : Url}
    (found : afterScheme? bySegments none scheme s = some u) (web : IsWeb u.scheme) : u.path.IsPlain := by
  rw [scheme_afterScheme? found] at web
  obtain ⟨other, special⟩ := web.special
  have authority : withAuthority? bySegments scheme (s.dropWhile (isSeparator true)) = some u := by
    unfold afterScheme? at found
    dsimp only [Option.filter_none] at found
    rwa [if_neg other, if_pos special] at found
  obtain ⟨-, rest, path⟩ := withAuthority?_eq_some authority
  rw [path]
  exact isPlain_pathAfterAuthority other rest

theorem isPlain_standard? {text : String} {u : Url} (found : standard? text = some u) (web : IsWeb u.scheme) :
    u.path.IsPlain := by
  unfold standard? read? at found
  dsimp only at found
  split at found
  · next scheme rest _ =>
    obtain ⟨bare, read, same⟩ := Option.bind_eq_some_iff.mp found
    obtain rfl := Option.some.inj same
    have plain : bare.path.IsPlain := isPlain_afterScheme? read web
    exact plain
  · cases found

end Paths

end Url

/-! ## The name of the file -/

namespace CommandLine
open Files

structure IsName (name : String) : Prop where
  filled : name ≠ ""
  plain : '/' ∉ name.toList
  here : name ≠ "."
  above : name ≠ ".."

section Names
variable {name : String}

theorem IsName.namesOf (one : IsName name) : namesOf name = [name] := by
  have word : words name.toList = [name.toList] := by
    refine words_of_name ?_ fun c member same => one.plain (same ▸ member)
    simpa using one.filled
  rw [namesOf_eq, word, List.map_singleton, String.ofList_toList]

theorem IsName.along (one : IsName name) (t : FileTree) :
    FileTree.along (t.origin name) (Files.namesOf name) = t.home ++ [name] := by
  have relative : isAbsolute name = false := by
    rw [isAbsolute, decide_eq_false_iff_not]
    exact fun first => one.plain (List.mem_of_head? first)
  have origin : t.origin name = t.home := by rw [FileTree.origin, FileTree.start, relative]; rfl
  rw [origin, one.namesOf]
  show FileTree.beside t.home name = _
  simp [FileTree.beside, isDot, isDots, one.here, one.above]

theorem isName_ofList {segment : List Char} (plain : Url.IsPlain segment) (filled : segment ≠ []) :
    IsName (String.ofList segment) := by
  have other : ∀ text : String, String.ofList segment = text → segment = text.toList := by
    rintro text rfl
    exact String.toList_ofList.symm
  refine ⟨fun same => filled (other _ same), ?_, ?_, ?_⟩
  · rw [String.toList_ofList]
    exact plain.name
  · intro same
    have here := plain.here
    rw [other _ same] at here
    exact absurd here (by decide)
  · intro same
    have above := plain.above
    rw [other _ same] at above
    exact absurd above (by decide)

theorem isName_fallbackName : IsName fallbackName := ⟨by decide, by decide, by decide, by decide⟩

theorem isName_nameOf {u : Url} (plain : u.path.IsPlain) : IsName (nameOf (some u)) := by
  obtain ⟨names, segments, all⟩ := plain
  have last := baseName_of_segments fun name member => (all name member).name
  have path : u.pathname = names.flatMap ('/' :: ·) := by
    rw [Url.pathname, segments]
    rfl
  rw [← path] at last
  unfold nameOf
  dsimp only
  split
  · exact isName_fallbackName
  · next filled =>
    exact isName_ofList (all _ (last.resolve_left filled)) filled

theorem slash_not_mem_nameOf (url? : Option Url) : nameOf url? ≠ "" ∧ '/' ∉ (nameOf url?).toList := by
  unfold nameOf
  split
  · exact ⟨isName_fallbackName.filled, isName_fallbackName.plain⟩
  · next u =>
    split
    · exact ⟨isName_fallbackName.filled, isName_fallbackName.plain⟩
    · next filled =>
      refine ⟨fun same => filled ?_, ?_⟩
      · rw [← String.toList_ofList (l := baseName u.pathname), same]
        rfl
      · rw [String.toList_ofList]
        exact slash_not_mem_baseName _

end Names

/-- A text that is no URL or a web address, read segment by segment, has a name in the directory at hand.  Without an
output the file is saved there, wherever the reader at hand reads the text in the same way. -/
theorem nameOf_standard_isName (url : String) (web : ∀ u ∈ Url.standard? url, Url.IsWeb u.scheme) :
    let name := nameOf (Url.standard? url)
    IsName name ∧ (∀ t : FileTree, FileTree.along (t.origin name) (namesOf name) = t.home ++ [name]) ∧
    (Url.parse? url = Url.standard? url → ∀ certificate?, output ⟨url, none, certificate?⟩ = name) := by
  intro name
  have one : IsName name := by
    show IsName (nameOf (Url.standard? url))
    cases read : Url.standard? url with
    | none => exact isName_fallbackName
    | some u => exact isName_nameOf (Url.isPlain_standard? read (web u read))
  refine ⟨one, one.along, fun same certificate? => ?_⟩
  rw [output, Option.getD_none, defaultOutput, same]

/-- Backslashes, dots in both spellings, slashes at the end, and slashes and dots behind the path. -/
theorem nameOf_standard_isName_of_dot_segments :
    let url := "http://e\\a\\x%2fy/%2E%2e/%2e/.b//?q/c#d/.."
    IsName ".b" ∧ ∀ certificate?, output ⟨url, none, certificate?⟩ = ".b" := by
  intro url
  have web : ∀ u ∈ Url.standard? url, Url.IsWeb u.scheme := by
    intro u read
    have scheme : (Url.standard? url).map Url.scheme = some "http".toList := by decide +kernel
    rw [Option.mem_def.mp read] at scheme
    exact .inl (Option.some.inj scheme)
  obtain ⟨one, -, output⟩ := nameOf_standard_isName url web
  have name : nameOf (Url.standard? url) = ".b" := by decide +kernel
  rw [name] at one output
  exact ⟨one, output (by decide +kernel)⟩

-- The reader at hand looks at the first dot behind a slash only, and takes this path as it stands.
example : nameOf (Url.standard? "http://e/a/.b/..") = "a" ∧ defaultOutput "http://e/a/.b/.." = ".." := by
  decide +kernel

end CommandLine
end MeteredDownload
