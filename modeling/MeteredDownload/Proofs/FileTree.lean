import Mathlib.Data.List.Infix
import Mathlib.Data.List.TakeWhile
import MeteredDownload.Log.Journal

/-!
# What becomes of a file tree

Making a directory adds directories on the way to it and changes nothing else (`FileTree.Grown`), and writing a
file changes what stands at one place.  Nothing is taken away and no link is changed (`FileTree.Keeps`), so a path
that leads somewhere leads there ever after.  When a file has been saved, with the directory that it is in, the path
leads to its content, and all that is new beside it are directories on the way to it (`FileTree.Saved`).
-/
set_option autoImplicit false
namespace MeteredDownload.Files

/-! ## The names of a path -/

section Names

def words (path : List Char) : List (List Char) := (Text.splitOn '/' path).filter (!·.isEmpty)

theorem splitOn_ne_nil (separator : Char) (text : List Char) : Text.splitOn separator text ≠ [] := by
  cases text with
  | nil => exact List.cons_ne_nil _ _
  | cons c rest =>
    unfold Text.splitOn
    split
    · exact List.cons_ne_nil _ _
    · split
      · exact List.cons_ne_nil _ _
      · exact List.cons_ne_nil _ _

theorem splitOn_append (separator : Char) (front back : List Char) :
    Text.splitOn separator (front ++ separator :: back) =
      Text.splitOn separator front ++ Text.splitOn separator back := by
  induction front with
  | nil => simp [Text.splitOn]
  | cons c rest ih =>
    by_cases same : c = separator
    · simp only [List.cons_append, Text.splitOn, same, if_true, ih]
    · simp only [List.cons_append, Text.splitOn, same, if_false, ih]
      obtain ⟨first, more, parts⟩ := List.exists_cons_of_ne_nil (splitOn_ne_nil separator rest)
      rw [parts]
      rfl

theorem splitOn_of_not_mem {separator : Char} {text : List Char} (absent : ∀ c ∈ text, c ≠ separator) :
    Text.splitOn separator text = [text] := by
  induction text with
  | nil => rfl
  | cons c rest ih =>
    have other : c ≠ separator := absent c List.mem_cons_self
    simp only [Text.splitOn, other, if_false, ih fun d member => absent d (List.mem_cons_of_mem _ member)]

theorem words_append (front back : List Char) : words (front ++ '/' :: back) = words front ++ words back := by
  rw [words, splitOn_append, List.filter_append]
  rfl

theorem words_of_slashes {slashes : List Char} (all : ∀ c ∈ slashes, c = '/') : words slashes = [] := by
  induction slashes with
  | nil => rfl
  | cons c rest ih =>
    have slash : c = '/' := all c List.mem_cons_self
    rw [slash]
    exact (words_append [] rest).trans (ih fun d member => all d (List.mem_cons_of_mem _ member))

theorem words_append_slashes (text : List Char) {slashes : List Char} (all : ∀ c ∈ slashes, c = '/') :
    words (text ++ slashes) = words text := by
  cases slashes with
  | nil => rw [List.append_nil]
  | cons c rest =>
    have slash : c = '/' := all c List.mem_cons_self
    rw [slash, words_append, words_of_slashes fun d member => all d (List.mem_cons_of_mem _ member), List.append_nil]

theorem words_of_name {name : List Char} (filled : name ≠ []) (plain : ∀ c ∈ name, c ≠ '/') :
    words name = [name] := by
  rw [words, splitOn_of_not_mem plain]
  simp [filled]

theorem path_parts (path : List Char) : ∃ lead name slashes, path = lead ++ name ++ slashes ∧
    (∀ c ∈ slashes, c = '/') ∧ (∀ c ∈ name, c ≠ '/') ∧ (lead = [] ∨ ∃ front, lead = front ++ ['/']) ∧
    (name = [] → lead = []) ∧
    (path.reverse.dropWhile isSlash).dropWhile (!isSlash ·) = lead.reverse := by
  -- All is read from the back: first slashes, then the name, then what is left.
  let tail := path.reverse.dropWhile isSlash
  refine ⟨(tail.dropWhile (!isSlash ·)).reverse, (tail.takeWhile (!isSlash ·)).reverse,
    (path.reverse.takeWhile isSlash).reverse, ?_, ?_, ?_, ?_, ?_, ?_⟩
  · rw [← List.reverse_append, List.takeWhile_append_dropWhile, ← List.reverse_append,
      List.takeWhile_append_dropWhile, List.reverse_reverse]
  · intro c member
    have slash := List.mem_takeWhile_imp (List.mem_reverse.mp member)
    simpa [isSlash] using slash
  · intro c member
    have other := List.mem_takeWhile_imp (List.mem_reverse.mp member)
    simpa [isSlash] using other
  · cases rest : tail.dropWhile (!isSlash ·) with
    | nil => exact .inl rfl
    | cons c back =>
      have slash := List.head?_dropWhile_not (!isSlash ·) tail
      rw [rest] at slash
      have same : c = '/' := by simpa [isSlash] using slash
      exact .inr ⟨back.reverse, by rw [same, List.reverse_cons]⟩
  · intro none
    have nothing : tail = [] := by
      cases start : tail with
      | nil => rfl
      | cons c back =>
        have other := List.head?_dropWhile_not isSlash path.reverse
        have here : path.reverse.dropWhile isSlash = c :: back := start
        rw [here] at other
        rw [start, List.takeWhile_cons_of_pos (by simpa using other)] at none
        simp at none
    rw [nothing]
    rfl
  · rw [List.reverse_reverse]

theorem words_directoryOf (path : List Char) :
    (words (directoryOf path) = (words path).dropLast ∨
      directoryOf path = ['.'] ∧ (words path).dropLast = []) ∧
    ((directoryOf path).head? = some '/' ↔ path.head? = some '/') := by
  obtain ⟨lead, name, slashes, parts, trailing, plain, ends, nameless, rest⟩ := path_parts path
  -- Slashes at the end give no names, so the last name is all that the directory lacks.
  have named : name ≠ [] → words path = words lead ++ [name] := by
    intro filled
    rw [parts, words_append_slashes _ trailing]
    rcases ends with rfl | ⟨front, rfl⟩
    · rw [List.nil_append, words_of_name filled plain]
      rfl
    · have split : front ++ ['/'] ++ name = front ++ '/' :: name := by simp
      rw [split, words_append, words_of_name filled plain, words_append_slashes front (by simp)]
  unfold directoryOf
  rw [rest]
  rcases ends with rfl | ⟨front, rfl⟩
  · have few : (words path).dropLast = [] := by
      by_cases filled : name = []
      · rw [parts, filled, List.append_nil, List.nil_append, words_of_slashes trailing]
        rfl
      · rw [named filled]
        rfl
    -- A name that nothing leads to: its directory is the root or the place at hand.
    by_cases absolute : path.head? = some '/'
    · simp only [List.reverse_nil, absolute, if_true]
      exact ⟨.inl few.symm, by simp⟩
    · simp only [List.reverse_nil, absolute, if_false]
      exact ⟨.inr ⟨trivial, few⟩, by simp⟩
  · have filled : name ≠ [] := fun none => by simpa using nameless none
    have most : (words path).dropLast = words front := by
      rw [named filled, List.dropLast_concat, words_append_slashes front (by simp)]
    have first : ∀ c more, front = c :: more → path.head? = some c := by
      intro c more start
      rw [parts, start]
      rfl
    rw [most, List.reverse_append, List.reverse_singleton, List.singleton_append]
    split
    · next none => cases none
    · next root =>
      have none : front = [] := by simpa using root
      have slash : path.head? = some '/' := by rw [parts, none]; rfl
      exact ⟨.inl (none ▸ rfl), by simp [slash]⟩
    · next double =>
      have one : front = ['/'] := by simpa using double
      exact ⟨.inl (one ▸ rfl), by simp [first _ _ one]⟩
    · next c back other _ same =>
      have whole : back.reverse = front := by
        rw [← (List.cons.inj same).2, List.reverse_reverse]
      rw [whole]
      refine ⟨.inl rfl, ?_⟩
      cases start : front with
      | nil =>
        have none : back = [] := by rw [← (List.cons.inj same).2, start]; rfl
        exact (other (List.cons.inj same).1.symm none).elim
      | cons c more => rw [first c more start]; rfl

theorem namesOf_eq (path : String) : namesOf path = (words path.toList).map String.ofList := rfl

theorem namesOf_directoryPath (path : String) :
    namesOf (Log.Journal.directoryPath path) = (namesOf path).dropLast ∨ Log.Journal.directoryPath path = "." := by
  rw [namesOf_eq, namesOf_eq, Log.Journal.directoryPath, String.toList_ofList, ← List.map_dropLast]
  rcases (words_directoryOf path.toList).1 with same | ⟨here, _⟩
  · exact .inl (by rw [same])
  · exact .inr (by rw [here])

theorem isAbsolute_directoryPath (path : String) :
    isAbsolute (Log.Journal.directoryPath path) = isAbsolute path := by
  simp only [isAbsolute, Log.Journal.directoryPath, String.toList_ofList, (words_directoryOf path.toList).2]

theorem isAbsolute_of_nameless {path : String} (usable : FileTree.acceptable path = .ok ())
    (nameless : namesOf path = []) : isAbsolute path = true := by
  have filled : path.toList ≠ [] := by
    intro none
    have empty : path = "" := String.toList_eq_nil_iff.mp none
    rw [empty] at usable
    cases usable
  obtain ⟨c, rest, chars⟩ := List.exists_cons_of_ne_nil filled
  rw [namesOf_eq, List.map_eq_nil_iff, chars] at nameless
  by_cases slash : c = '/'
  · simp [isAbsolute, chars, slash]
  · obtain ⟨first, more, parts⟩ := List.exists_cons_of_ne_nil (splitOn_ne_nil '/' rest)
    simp [words, Text.splitOn, slash, parts] at nameless

end Names

namespace FileTree

section Entries
variable {t u : FileTree} {place : Place} {path : String}

theorem lookup_put (place : Place) (entry : Entry) (entries : List (Place × Entry)) (other : Place) :
    (put place entry entries).lookup other = if other = place then some entry else entries.lookup other := by
  induction entries with
  | nil =>
    by_cases same : other = place
    · simp [put, same]
    · have differs : (other == place) = false := beq_eq_false_iff_ne.mpr same
      simp [put, List.lookup_cons, differs, same]
  | cons first rest ih =>
    obtain ⟨p, e⟩ := first
    by_cases here : p = place
    · subst here
      by_cases same : other = p
      · simp [put, same]
      · have differs : (other == p) = false := beq_eq_false_iff_ne.mpr same
        simp [put, List.lookup_cons, differs, same]
    · rw [put, if_neg here, List.lookup_cons, ih, List.lookup_cons]
      by_cases same : other = p
      · subst same
        simp [here]
      · have differs : (other == p) = false := beq_eq_false_iff_ne.mpr same
        rw [differs]

theorem insert_at (t : FileTree) (entry : Entry) (filled : place ≠ []) (other : Place) :
    entry? (t.insert place entry) other = if other = place then some entry else t.entry? other := by
  unfold entry? insert
  by_cases root : other = []
  · simp [root, Ne.symm filled]
  · simp only [root, if_false]
    exact lookup_put place entry t.entries other

/-! ## What stays -/

/-- What can become of what stands at a place, or does not stand there yet. -/
inductive Stays : Option Entry → Option Entry → Prop where
  | same (there : Option Entry) : Stays there there
  | made : Stays none (some .directory)
  | created (content : ByteArray) : Stays none (some (.file content))
  | written (old content : ByteArray) : Stays (some (.file old)) (some (.file content))

theorem Stays.trans {first second third : Option Entry} (before : Stays first second) (after : Stays second third) :
    Stays first third := by
  cases before with
  | same => exact after
  | made => cases after; exact .made
  | created content =>
    cases after with
    | same => exact .created content
    | written _ later => exact .created later
  | written old content =>
    cases after with
    | same => exact .written old content
    | written _ later => exact .written old later

/-- Each directory, file and link of the first tree is one in the second, and each link is the same. -/
structure Keeps (t u : FileTree) : Prop where
  home : u.home = t.home
  entries : ∀ place, Stays (t.entry? place) (u.entry? place)

theorem Keeps.refl (t : FileTree) : Keeps t t := ⟨rfl, fun _ => .same _⟩

theorem Keeps.trans {v : FileTree} (before : Keeps t u) (after : Keeps u v) : Keeps t v :=
  ⟨after.home.trans before.home, fun place => (before.entries place).trans (after.entries place)⟩

theorem Keeps.kept {entry : Entry} (keeps : Keeps t u) (there : t.entry? place = some entry)
    (solid : ∀ content, entry ≠ .file content) : u.entry? place = some entry := by
  have stays := keeps.entries place
  rw [there] at stays
  revert stays
  generalize u.entry? place = after
  intro stays
  cases stays with
  | same => rfl
  | written old content => exact absurd rfl (solid old)

theorem Keeps.directory (keeps : Keeps t u) (there : t.entry? place = some .directory) :
    u.entry? place = some .directory :=
  keeps.kept there nofun

theorem Keeps.file {content : ByteArray} (keeps : Keeps t u) (there : t.entry? place = some (.file content)) :
    ∃ later, u.entry? place = some (.file later) := by
  have stays := keeps.entries place
  rw [there] at stays
  revert stays
  generalize u.entry? place = after
  intro stays
  cases stays with
  | same => exact ⟨content, rfl⟩
  | written _ later => exact ⟨later, rfl⟩

theorem Keeps.absent (keeps : Keeps t u) (none : t.entry? place = none) :
    u.entry? place = .none ∨ u.entry? place = some .directory ∨ ∃ content, u.entry? place = some (.file content) := by
  have stays := keeps.entries place
  rw [none] at stays
  revert stays
  generalize u.entry? place = after
  intro stays
  cases stays with
  | same => exact .inl rfl
  | made => exact .inr (.inl rfl)
  | created content => exact .inr (.inr ⟨content, rfl⟩)

theorem keeps_insert {entry : Entry} (filled : place ≠ []) (stays : Stays (t.entry? place) (some entry)) :
    Keeps t (t.insert place entry) := by
  refine ⟨rfl, ?_⟩
  intro other
  rw [insert_at t entry filled]
  split
  · next same => exact same ▸ stays
  · exact .same _

theorem Keeps.seat {seat : Place} (keeps : Keeps t u) (sits : t.seat? place = some seat) :
    u.seat? place = some seat := by
  unfold seat? at sits ⊢
  split at sits
  · next content there =>
    obtain ⟨later, still⟩ := keeps.file there
    rw [still]
    exact sits
  · next other there =>
    rw [keeps.kept there nofun]
    split at sits
    · next content seated =>
      obtain ⟨later, still⟩ := keeps.file seated
      dsimp only
      rw [still]
      exact sits
    · cases sits
  · cases sits

theorem seat_of_file {content : ByteArray} (there : t.entry? place = some (.file content)) :
    t.seat? place = some place := by
  simp only [seat?, there]

theorem file_of_seat {seat : Place} (sits : t.seat? place = some seat) :
    ∃ content, t.entry? seat = some (.file content) := by
  unfold seat? at sits
  split at sits
  · next content there =>
    cases sits
    exact ⟨content, there⟩
  · split at sits
    · next content seated =>
      cases sits
      exact ⟨content, seated⟩
    · cases sits
  · cases sits

end Entries

/-! ## Where paths lead -/

section Walks
variable {t u : FileTree} {place here : Place} {path : String} {creating later : Bool}

theorem stride_of_keeps (keeps : Keeps t u) (eager : later = true → creating = true)
    (there : creating = true → u.entry? place = none → later = true)
    {jump next : Place → Bool → List String → Except FileFault Place}
    (jumps : ∀ here insists names, jump here insists names = .ok place → next here insists names = .ok place)
    {insists : Bool} {names : List String} (walked : t.stride creating jump here insists names = .ok place) :
    u.stride later next here insists names = .ok place := by
  induction names generalizing here with
  | nil => exact walked
  | cons name rest ih =>
    rw [stride] at walked ⊢
    by_cases barred : (creating && rest.isEmpty && (insists || isDot name || isDots name)) = true
    · rw [if_pos barred] at walked
      cases walked
    have open_ : ¬ (later && rest.isEmpty && (insists || isDot name || isDots name)) = true := by
      intro shut
      rw [Bool.and_eq_true, Bool.and_eq_true] at shut barred
      exact barred ⟨⟨eager shut.1.1, shut.1.2⟩, shut.2⟩
    rw [if_neg barred] at walked
    rw [if_neg open_]
    by_cases long : maxNameSize < name.utf8ByteSize
    · rw [if_pos long] at walked
      cases walked
    rw [if_neg long] at walked ⊢
    -- What stands there is as it was, but that a directory or a file may stand where nothing stood.
    cases before : t.entry? (beside here name) with
    | none =>
      rw [before] at walked
      dsimp only at walked
      split at walked
      · next ends =>
        cases walked
        rw [Bool.and_eq_true, List.isEmpty_iff] at ends
        obtain ⟨created, rfl⟩ := ends
        rcases keeps.absent before with absent | made | ⟨content, written⟩
        · rw [absent]
          simp [there created absent]
        · rw [made]
          rfl
        · have plain : insists = false := by
            cases insists with
            | false => rfl
            | true => exact absurd (by simp [created]) barred
          rw [written]
          dsimp only
          rw [seat_of_file written]
          simp [plain]
      · cases walked
    | some entry =>
      rw [before] at walked
      cases entry with
      | directory =>
        rw [keeps.directory before]
        exact ih walked
      | link path =>
        rw [keeps.kept before nofun]
        dsimp only at walked ⊢
        cases usable : acceptable path with
        | error fault =>
          rw [usable] at walked
          cases walked
        | ok _ =>
          rw [usable] at walked
          exact jumps _ _ _ walked
      | file content =>
        obtain ⟨again, still⟩ := keeps.file before
        have sits := seat_of_file before
        dsimp only at walked
        rw [sits] at walked
        rw [still]
        dsimp only
        rw [keeps.seat sits]
        exact walked
      | twin other =>
        rw [keeps.kept before nofun]
        dsimp only at walked ⊢
        cases sits : t.seat? (beside here name) with
        | none =>
          rw [sits] at walked
          cases walked
        | some seat =>
          rw [sits] at walked
          rw [keeps.seat sits]
          exact walked

/-- A path that leads somewhere leads there ever after: also where a file is read that could be created. -/
theorem walk_of_keeps (keeps : Keeps t u) (eager : later = true → creating = true)
    (there : creating = true → u.entry? place = none → later = true) {links : Nat} {insists : Bool}
    {names : List String} (walked : t.walk creating links here insists names = .ok place) :
    u.walk later links here insists names = .ok place := by
  induction links generalizing here insists names with
  | zero => exact stride_of_keeps keeps eager there (fun _ _ _ failed => by cases failed) walked
  | succ links ih => exact stride_of_keeps keeps eager there (fun _ _ _ => ih) walked

theorem locate_of_keeps (keeps : Keeps t u) (eager : later = true → creating = true)
    (there : creating = true → u.entry? place = none → later = true) (leads : t.locate creating path = .ok place) :
    u.locate later path = .ok place := by
  unfold locate at leads ⊢
  have begins : u.origin path = t.origin path := by simp only [origin, keeps.home]
  rw [begins]
  cases usable : acceptable path with
  | error fault =>
    rw [usable] at leads
    cases leads
  | ok _ =>
    rw [usable] at leads
    exact walk_of_keeps keeps eager there leads

/-- What stands where a walk ends: no link, and nothing only where a file may be created. -/
def Ends (creating : Bool) : Option Entry → Prop
  | none => creating = true
  | some .directory | some (.file _) => True
  | some (.link _) | some (.twin _) => False

theorem ends_stride {jump : Place → Bool → List String → Except FileFault Place}
    (jumps : ∀ here insists names, (names = [] → t.entry? here = some .directory) →
      jump here insists names = .ok place → Ends creating (t.entry? place))
    {insists : Bool} {names : List String} (begins : names = [] → t.entry? here = some .directory)
    (walked : t.stride creating jump here insists names = .ok place) : Ends creating (t.entry? place) := by
  -- By induction on the names.  At a link the walk goes on elsewhere, and where that ends is what `jumps` tells.
  induction names generalizing here with
  | nil =>
    cases walked
    rw [begins rfl]
    trivial
  | cons name rest ih =>
    rw [stride] at walked
    split at walked
    · cases walked
    split at walked
    · cases walked
    split at walked
    · next directory => exact ih (fun _ => directory) walked
    · next link found =>
      cases usable : acceptable link with
      | error fault =>
        rw [usable] at walked
        cases walked
      | ok _ =>
        rw [usable] at walked
        refine jumps _ _ _ ?_ walked
        intro none
        have absolute := isAbsolute_of_nameless usable (List.append_eq_nil_iff.mp none).1
        rw [start, if_pos absolute]
        rfl
    · split at walked
      · next seat sits =>
        split at walked
        · cases walked
        · cases walked
          obtain ⟨content, file⟩ := file_of_seat sits
          rw [file]
          trivial
      · cases walked
    · next absent =>
      split at walked
      · next ends =>
        cases walked
        rw [absent]
        exact (Bool.and_eq_true _ _ ▸ ends).1
      · cases walked

theorem ends_walk {links : Nat} {insists : Bool} {names : List String}
    (begins : names = [] → t.entry? here = some .directory)
    (walked : t.walk creating links here insists names = .ok place) : Ends creating (t.entry? place) := by
  induction links generalizing here insists names with
  | zero => exact ends_stride (fun _ _ _ _ failed => by cases failed) begins walked
  | succ links ih => exact ends_stride (fun _ _ _ => ih) begins walked

theorem ends_locate (leads : t.locate creating path = .ok place) : Ends creating (t.entry? place) := by
  unfold locate at leads
  cases usable : acceptable path with
  | error fault =>
    rw [usable] at leads
    cases leads
  | ok _ =>
    rw [usable] at leads
    refine ends_walk ?_ leads
    intro nameless
    rw [origin, start, if_pos (isAbsolute_of_nameless usable nameless)]
    rfl

theorem stride_concat {jump : Place → Bool → List String → Except FileFault Place} {name : String} {insists : Bool}
    (jumps : ∀ here names, jump here true names = .ok place →
      jump here insists (names ++ [name]) = .ok (beside place name))
    (short : ¬ maxNameSize < name.utf8ByteSize) (there : t.entry? (beside place name) = some .directory)
    {front : List String} (walked : t.stride false jump here true front = .ok place) :
    t.stride false jump here insists (front ++ [name]) = .ok (beside place name) := by
  induction front generalizing here with
  | nil =>
    cases walked
    simp [stride, short, there]
  | cons first rest ih =>
    rw [stride] at walked
    rw [List.cons_append, stride]
    simp only [Bool.false_and, Bool.false_eq_true, if_false] at walked ⊢
    split at walked
    · cases walked
    · next fits =>
      rw [if_neg fits]
      split at walked
      · exact ih walked
      · next link found =>
        cases usable : acceptable link with
        | error fault =>
          rw [usable] at walked
          cases walked
        | ok _ =>
          rw [usable] at walked
          have more := jumps _ _ walked
          have filled : (rest ++ [name]).isEmpty = false := by simp
          rw [List.append_assoc] at more
          rw [filled, Bool.false_and, Bool.or_false]
          exact more
      · split at walked
        · simp at walked
        · cases walked
      · cases walked

theorem walk_concat {name : String} {insists : Bool} (short : ¬ maxNameSize < name.utf8ByteSize)
    (there : t.entry? (beside place name) = some .directory) {links : Nat} {front : List String}
    (walked : t.walk false links here true front = .ok place) :
    t.walk false links here insists (front ++ [name]) = .ok (beside place name) := by
  induction links generalizing here front with
  | zero => exact stride_concat (fun _ _ failed => by cases failed) short there walked
  | succ links ih => exact stride_concat (fun _ _ => ih) short there walked

/-- The place along names where no link stands on the way. -/
def along (place : Place) (names : List String) : Place := names.foldl beside place

def Unlinked (t : FileTree) : Prop :=
  ∀ place entry, t.entry? place = some entry → entry = .directory ∨ ∃ content, entry = .file content

theorem along_of_stride (unlinked : t.Unlinked) {jump : Place → Bool → List String → Except FileFault Place}
    {insists : Bool} {names : List String} (walked : t.stride creating jump here insists names = .ok place) :
    place = along here names := by
  -- By induction on the names: a directory is passed, a file ends the walk, and there is no link to leave the way.
  induction names generalizing here with
  | nil =>
    cases walked
    rfl
  | cons name rest ih =>
    rw [stride] at walked
    split at walked
    · cases walked
    split at walked
    · cases walked
    split at walked
    · exact ih walked
    · next link found => rcases unlinked _ _ found with same | ⟨content, same⟩ <;> cases same
    · next entry directory link found =>
      rcases unlinked _ _ found with same | ⟨content, rfl⟩
      · exact absurd same directory
      · rw [seat_of_file found] at walked
        dsimp only at walked
        split at walked
        · cases walked
        · next ends =>
          cases walked
          rw [Bool.or_eq_true, not_or, Bool.not_eq_true', Bool.not_eq_false, List.isEmpty_iff] at ends
          rw [ends.2]
          rfl
    · split at walked
      · next ends =>
        cases walked
        rw [Bool.and_eq_true, List.isEmpty_iff] at ends
        rw [ends.2]
        rfl
      · cases walked

theorem along_of_locate (unlinked : t.Unlinked) (leads : t.locate creating path = .ok place) :
    place = along (t.origin path) (namesOf path) := by
  unfold locate at leads
  cases usable : acceptable path with
  | error fault =>
    rw [usable] at leads
    cases leads
  | ok _ =>
    rw [usable] at leads
    exact along_of_stride unlinked leads

end Walks

/-! ## Making directories -/

def Leads (t : FileTree) (origin : Place) (names : List String) (place : Place) : Prop :=
  t.walk false maxLinks origin true names = .ok place

/-- The second tree has what the first has, and directories on the way along the names. -/
structure Grown (t u : FileTree) (origin : Place) (names : List String) : Prop where
  keeps : Keeps t u
  entries : ∀ other, u.entry? other = t.entry? other ∨ t.entry? other = none ∧ u.entry? other = some .directory ∧
    ∃ front, front <+: names ∧ u.Leads origin front other

section Growth
variable {t u v : FileTree} {place origin : Place} {path : String} {names : List String}

theorem Keeps.leads (keeps : Keeps t u) (leads : t.Leads origin names place) : u.Leads origin names place :=
  walk_of_keeps keeps id (fun created => by cases created) leads

theorem Grown.refl (t : FileTree) (origin : Place) (names : List String) : Grown t t origin names :=
  ⟨.refl t, fun _ => .inl rfl⟩

theorem Grown.trans (before : Grown t u origin names) (after : Grown u v origin names) : Grown t v origin names := by
  refine ⟨before.keeps.trans after.keeps, ?_⟩
  intro other
  rcases after.entries other with same | ⟨absent, made, leads⟩
  · rw [same]
    refine (before.entries other).imp_right ?_
    rintro ⟨absent, made, front, within, leads⟩
    exact ⟨absent, made, front, within, after.keeps.leads leads⟩
  · rcases before.entries other with same | ⟨_, made', _⟩
    · exact .inr ⟨same.symm.trans absent, made, leads⟩
    · rw [made'] at absent
      cases absent

theorem makeOne_ok (made : t.makeOne path = .ok u) : ∃ front name directory, namesOf path = front ++ [name] ∧
    acceptable path = .ok () ∧ t.Leads (t.origin path) front directory ∧ beside directory name = directory ++ [name] ∧
    ¬ maxNameSize < name.utf8ByteSize ∧ t.entry? (directory ++ [name]) = none ∧
    u = t.insert (directory ++ [name]) .directory := by
  -- Each check that the path has passed becomes one part of what is known of the directory that was made.
  unfold makeOne at made
  cases usable : acceptable path with
  | error fault =>
    rw [usable] at made
    cases made
  | ok _ =>
    rw [usable] at made
    cases last : (namesOf path).getLast? with
    | none =>
      rw [last] at made
      cases made
    | some name =>
      rw [last] at made
      dsimp only [bind, Except.bind] at made
      cases leads : t.walk false maxLinks (t.origin path) true (namesOf path).dropLast with
      | error fault =>
        rw [leads] at made
        cases made
      | ok directory =>
        rw [leads] at made
        dsimp only at made
        split at made
        · cases made
        · next plain =>
          split at made
          · cases made
          · next short =>
            split at made
            · cases made
            · next free =>
              cases made
              simp only [Bool.or_eq_true, not_or, Bool.not_eq_true] at plain
              refine ⟨_, name, directory, (List.dropLast_append_getLast? name last).symm, rfl, leads, ?_, short, ?_, rfl⟩
              · simp [beside, plain.1, plain.2]
              · simpa using free

theorem grown_makeOne (made : t.makeOne path = .ok u) : Grown t u (t.origin path) (namesOf path) := by
  obtain ⟨front, name, directory, names, _, leads, besides, short, absent, rfl⟩ := makeOne_ok made
  have filled : directory ++ [name] ≠ [] := by simp
  have keeps : Keeps t (t.insert (directory ++ [name]) .directory) := keeps_insert filled (by rw [absent]; exact .made)
  refine ⟨keeps, ?_⟩
  intro other
  by_cases here : other = directory ++ [name]
  · subst here
    have there : entry? (t.insert (directory ++ [name]) .directory) (directory ++ [name]) = some .directory := by
      rw [insert_at t .directory filled, if_pos rfl]
    refine .inr ⟨absent, there, namesOf path, List.prefix_rfl, ?_⟩
    have behind := keeps.leads leads
    revert there behind
    generalize t.insert (directory ++ [name]) .directory = u
    intro there behind
    rw [← besides] at there ⊢
    rw [names]
    exact walk_concat short there behind
  · rw [insert_at t .directory filled, if_neg here]
    exact .inl rfl

structure Shorter (home : Place) (origin : Place) (names : List String) (path : String) : Prop where
  within : namesOf path <+: names
  begins : acceptable path = .ok () → start home path = origin

theorem grown_descend (blocked : FileFault → FileFault) (paths : List String) (t : FileTree)
    (shorter : ∀ path ∈ paths, Shorter t.home origin names path) :
    Grown t (descend blocked paths t).1 origin names := by
  -- By induction on the paths; a tree that has grown once is one from which it can grow further.
  induction paths generalizing t with
  | nil => exact .refl t origin names
  | cons path rest ih =>
    have later := fun other member => shorter other (List.mem_cons_of_mem path member)
    unfold descend
    cases made : t.makeOne path with
    | ok u =>
      obtain ⟨_, _, _, _, usable, _⟩ := makeOne_ok made
      obtain ⟨within, begins⟩ := shorter path List.mem_cons_self
      have one := grown_makeOne made
      rw [FileTree.origin, begins usable] at one
      have first : Grown t u origin names := by
        refine ⟨one.keeps, ?_⟩
        intro other
        refine (one.entries other).imp_right ?_
        rintro ⟨absent, there, front, before, leads⟩
        exact ⟨absent, there, front, before.trans within, leads⟩
      exact first.trans (ih u (one.keeps.home ▸ later))
    | error fault =>
      dsimp only
      split
      · exact ih t later
      · exact .refl t origin names

theorem mem_climb {shorter behind : List String} (climbed : path ∈ t.climb shorter behind) :
    path ∈ shorter ∨ path ∈ behind := by
  induction shorter generalizing behind with
  | nil => exact .inr climbed
  | cons first rest ih =>
    unfold climb at climbed
    split at climbed
    · rcases ih climbed with more | more
      · exact .inl (List.mem_cons_of_mem first more)
      · rcases List.mem_cons.mp more with rfl | more
        · exact .inl List.mem_cons_self
        · exact .inr more
    · rcases List.mem_cons.mp climbed with rfl | more
      · exact .inl List.mem_cons_self
      · exact .inr more

theorem fronts_spec {front text : List Char} (member : front ∈ fronts text) : ∃ back, text = front ++ '/' :: back := by
  induction text generalizing front with
  | nil => cases member
  | cons c rest ih =>
    unfold fronts at member
    rcases List.mem_append.mp member with here | later
    · by_cases slash : isSlash c = true
      · rw [if_pos slash, List.mem_singleton] at here
        subst here
        have same : c = '/' := by simpa [isSlash] using slash
        exact ⟨rest, by rw [same]; rfl⟩
      · rw [if_neg slash] at here
        cases here
    · obtain ⟨shorter, within, rfl⟩ := List.mem_map.mp later
      obtain ⟨back, rfl⟩ := ih within
      exact ⟨back, rfl⟩

theorem shorter_of_front (home : Place) {front : List Char} (member : front ∈ fronts path.toList) :
    Shorter home (start home path) (namesOf path) (String.ofList front) := by
  obtain ⟨back, whole⟩ := fronts_spec member
  refine ⟨?_, ?_⟩
  · rw [namesOf_eq, namesOf_eq, String.toList_ofList, whole, words_append, List.map_append]
    exact List.prefix_append ..
  · intro usable
    -- An empty path cannot be looked up, and any other begins with the same character as the one it is in front of.
    cases front with
    | nil => cases usable
    | cons c rest =>
      have same : isAbsolute (String.ofList (c :: rest)) = isAbsolute path := by
        simp [isAbsolute, whole]
      rw [start, start, same]

theorem grown_makeAll (blocked : FileFault → FileFault) (path : String) (t : FileTree) :
    Grown t (t.makeAll blocked path).1 (t.origin path) (namesOf path) := by
  refine grown_descend blocked _ t ?_
  intro other member
  rcases mem_climb member with climbed | none
  · rcases List.mem_cons.mp climbed with rfl | shorter
    · exact ⟨List.prefix_rfl, fun _ => rfl⟩
    · obtain ⟨front, within, rfl⟩ := List.mem_map.mp (List.mem_reverse.mp shorter)
      exact shorter_of_front t.home within
  · cases none

theorem grown_makeDirectory (path : String) (t : FileTree) :
    Grown t (t.makeDirectory path).1 (t.origin path) (namesOf path) := by
  unfold makeDirectory
  split
  · exact .refl ..
  · exact grown_makeAll ..

theorem grown_makeDirectoryAtOnce (path : String) (t : FileTree) :
    Grown t (t.makeDirectoryAtOnce path).1 (t.origin path) (namesOf path) := by
  unfold makeDirectoryAtOnce
  split
  · exact .refl ..
  · exact grown_makeAll ..

end Growth

/-! ## Writing files -/

section Writing
variable {t u : FileTree} {place : Place} {path : String} {content : ByteArray}

theorem filePlace_ok (found : t.filePlace path = .ok place) : t.locate true path = .ok place ∧
    (t.entry? place = none ∨ ∃ old, t.entry? place = some (.file old)) := by
  unfold filePlace at found
  cases leads : t.locate true path with
  | error fault =>
    rw [leads] at found
    cases found
  | ok there =>
    rw [leads] at found
    dsimp only [bind, Except.bind] at found
    split at found
    · cases found
    · next free =>
      cases found
      rw [hasDirectory_iff] at free
      refine ⟨rfl, ?_⟩
      have ends := ends_locate leads
      revert ends free
      generalize t.entry? place = there
      intro free ends
      cases there with
      | none => exact .inl rfl
      | some entry =>
        cases entry with
        | directory => exact absurd rfl free
        | file old => exact .inr ⟨old, rfl⟩
        | link => exact ends.elim
        | twin => exact ends.elim

theorem stays_written (content : ByteArray) {there : Option Entry}
    (before : there = none ∨ ∃ old, there = some (.file old)) : Stays there (some (.file content)) := by
  rcases before with rfl | ⟨old, rfl⟩
  · exact .created content
  · exact .written old content

theorem filled_of_writable (before : t.entry? place = none ∨ ∃ old, t.entry? place = some (.file old)) :
    place ≠ [] := by
  rintro rfl
  rcases before with absent | ⟨old, there⟩
  · cases absent
  · cases there

/-- A file was saved at the path: that leads to a place that held a file or nothing and has the content now, and all
else that is new is directories on the way. -/
structure SavedAt (place : Place) (path : String) (content : ByteArray) (t u : FileTree) : Prop where
  leads : u.locate false path = .ok place
  before : t.entry? place = none ∨ ∃ old, t.entry? place = some (.file old)
  entry : u.entry? place = some (.file content)
  others : ∀ other, other ≠ place → u.entry? other = t.entry? other ∨
    t.entry? other = none ∧ u.entry? other = some .directory ∧
      ∃ front, front <+: (namesOf path).dropLast ∧ u.Leads (t.origin path) front other

def Saved (path : String) (content : ByteArray) (t u : FileTree) : Prop :=
  u.readFile path = .ok content ∧ ∃ place, SavedAt place path content t u

theorem SavedAt.reads (saved : SavedAt place path content t u) (clean : hasNull path = false) :
    u.readFile path = .ok content := by
  simp [readFile, clean, saved.leads, saved.entry, hasDirectory, contentAt]

theorem makeDirectory_dot (t : FileTree) : (t.makeDirectory ".").1 = t := by
  have unmade : ∀ u, t.makeOne "." ≠ .ok u := by
    intro u made
    obtain ⟨front, name, directory, names, _, _, besides, _⟩ := makeOne_ok made
    have one : ["."] = front ++ [name] := names
    rcases List.append_eq_singleton_iff.mp one.symm with ⟨_, same⟩ | ⟨_, none⟩
    · have dot : name = "." := (List.cons.inj same).1
      simp [beside, isDot, dot] at besides
    · cases none
  have alone : t.climb ["."] [] = ["."] := by
    unfold climb
    split <;> rfl
  have stays : (t.makeAll (fun _ => .notDirectory) ".").1 = t := by
    unfold makeAll
    have none : ((fronts ".".toList).map String.ofList).reverse = [] := rfl
    rw [none]
    dsimp only
    rw [alone, descend]
    cases made : t.makeOne "." with
    | ok u => exact absurd made (unmade u)
    | error fault =>
      dsimp only
      split
      · rfl
      · rfl
  exact stays

theorem grown_directoryPath (path : String) (t : FileTree) :
    Grown t (t.makeDirectory (Log.Journal.directoryPath path)).1 (t.origin path) (namesOf path).dropLast := by
  rcases namesOf_directoryPath path with names | dot
  · have grown := grown_makeDirectory (Log.Journal.directoryPath path) t
    have begins : t.origin (Log.Journal.directoryPath path) = t.origin path := by
      simp only [origin, start, isAbsolute_directoryPath]
    rwa [begins, names] at grown
  · rw [dot, makeDirectory_dot]
    exact .refl ..

theorem saved_of_written
    (written : (t.makeDirectory (Log.Journal.directoryPath path)).1.writeFile path content = .ok u) :
    Saved path content t u := by
  have grown := grown_directoryPath path t
  revert grown written
  generalize (t.makeDirectory (Log.Journal.directoryPath path)).1 = v
  intro written grown
  unfold writeFile changeFile at written
  by_cases clean : hasNull path = true
  · simp [clean] at written
  · simp only [clean, Bool.false_eq_true, if_false] at written
    split at written
    · cases written
    · next place found =>
      cases written
      obtain ⟨leads, before⟩ := filePlace_ok found
      have filled := filled_of_writable before
      have keeps : Keeps v (v.insert place (.file content)) := keeps_insert filled (stays_written content before)
      have there : entry? (v.insert place (.file content)) place = some (.file content) := by
        rw [insert_at v _ filled, if_pos rfl]
      -- The directories were made before the file was written, and the writing takes none of them away.
      have saved : SavedAt place path content t (v.insert place (.file content)) := by
        refine ⟨?_, ?_, there, ?_⟩
        · refine locate_of_keeps keeps (fun created => by cases created) ?_ leads
          intro _ absent
          rw [there] at absent
          cases absent
        · rcases grown.entries place with same | ⟨absent, _⟩
          · exact same ▸ before
          · exact .inl absent
        · intro other apart
          rw [insert_at v _ filled, if_neg apart]
          refine (grown.entries other).imp_right ?_
          rintro ⟨absent, made, front, within, leads⟩
          exact ⟨absent, made, front, within, keeps.leads leads⟩
      exact ⟨saved.reads (by simpa using clean), place, saved⟩

end Writing

end FileTree
end MeteredDownload.Files
