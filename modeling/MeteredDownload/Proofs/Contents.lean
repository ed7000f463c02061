import MeteredDownload.Proofs.FileTree

/-!
# What the files of a tree hold

The path of a file that can be opened leads to one place (`FileTree.place?`).  A line that is added to the end of the
file changes what that place holds and nothing else, and to make a directory changes what no place holds.  Neither
takes a directory or a file away (`FileTree.Keeps`), so the path of a file that is there leads to the same place ever
after.
-/
set_option autoImplicit false
namespace MeteredDownload.Files
namespace FileTree

/-- Where the file is that a path names, if it can be opened.  It need not be there yet. -/
def place? (path : String) (t : FileTree) : Option Place :=
  if hasNull path then none else (t.filePlace path).toOption

def extend (path : String) (line : ByteArray) (t : FileTree) : FileTree :=
  match t.appendFile path line with
  | .ok t => t
  | .error _ => t

section Content
variable {t u : FileTree} {path : String} {place : Place} {line : ByteArray}

theorem contentAt_of_file {content : ByteArray} (there : t.entry? place = some (.file content)) :
    t.contentAt place = content := by
  rw [contentAt, there]

theorem contentAt_congr (same : u.entry? place = t.entry? place) : u.contentAt place = t.contentAt place := by
  rw [contentAt, contentAt, same]

theorem filePlace_of_place? (found : t.place? path = some place) : t.filePlace path = .ok place := by
  unfold place? at found
  split at found
  · cases found
  · cases leads : t.filePlace path with
    | error fault =>
      rw [leads] at found
      cases found
    | ok other =>
      rw [leads] at found
      cases found
      rfl

theorem place?_writable (found : t.place? path = some place) :
    t.entry? place = none ∨ ∃ old, t.entry? place = some (.file old) :=
  (filePlace_ok (filePlace_of_place? found)).2

theorem place?_filled (found : t.place? path = some place) : place ≠ [] := filled_of_writable (place?_writable found)

theorem extend_eq (path : String) (line : ByteArray) (t : FileTree) :
    t.extend path line = match t.place? path with
      | some place => t.insert place (.file (t.contentAt place ++ line))
      | none => t := by
  unfold extend appendFile changeFile place?
  split
  · next written =>
    split at written
    · cases written
    · next clean =>
      split at written
      · cases written
      · next place leads =>
        cases written
        rw [if_neg clean, leads]
        rfl
  · next refused =>
    split at refused
    · next null => rw [if_pos null]
    · next clean =>
      split at refused
      · next leads => rw [if_neg clean, leads]; rfl
      · cases refused

theorem contentAt_extend (path : String) (line : ByteArray) (t : FileTree) (place : Place) :
    (t.extend path line).contentAt place =
      if t.place? path = some place then t.contentAt place ++ line else t.contentAt place := by
  rw [extend_eq]
  cases found : t.place? path with
  | none => simp
  | some other =>
    have inserted := insert_at t (.file (t.contentAt other ++ line)) (place?_filled found) place
    by_cases same : place = other
    · subst same
      rw [if_pos rfl] at inserted
      rw [if_pos rfl]
      exact contentAt_of_file inserted
    · rw [if_neg same] at inserted
      rw [if_neg fun equal => same (Option.some.inj equal).symm]
      exact contentAt_congr inserted

theorem Grown.contentAt {origin : Place} {names : List String} (grown : Grown t u origin names) (place : Place) :
    u.contentAt place = t.contentAt place := by
  rcases grown.entries place with same | ⟨absent, made, _⟩
  · exact contentAt_congr same
  · simp only [FileTree.contentAt, absent, made]

/-! ## What stays -/

theorem keeps_extend (path : String) (line : ByteArray) (t : FileTree) : Keeps t (t.extend path line) := by
  rw [extend_eq]
  cases found : t.place? path with
  | none => exact .refl t
  | some here => exact keeps_insert (place?_filled found) (stays_written _ (place?_writable found))

structure IsOpen (path : String) (place : Place) (t : FileTree) : Prop where
  leads : t.place? path = some place
  there : ∃ content, t.entry? place = some (.file content)

theorem place?_of_keeps (keeps : Keeps t u) (found : t.place? path = some place)
    (free : u.entry? place ≠ some .directory) : u.place? path = some place := by
  -- The path still leads there, so only a directory at the place itself could be an obstacle.
  have leads := locate_of_keeps keeps id (fun created _ => created) (filePlace_ok (filePlace_of_place? found)).1
  have clean : ¬ hasNull path = true := by
    intro null
    rw [place?, if_pos null] at found
    cases found
  rw [place?, if_neg clean, filePlace, leads]
  simp [bind, Except.bind, hasDirectory_iff, free, Except.toOption]

theorem IsOpen.of_keeps (keeps : Keeps t u) (open_ : t.IsOpen path place) : u.IsOpen path place := by
  obtain ⟨content, there⟩ := open_.there
  obtain ⟨other, still⟩ := keeps.file there
  have free : u.entry? place ≠ some .directory := by
    rw [still]
    simp
  exact ⟨place?_of_keeps keeps open_.leads free, other, still⟩

theorem isOpen_extend (found : t.place? path = some place) (line : ByteArray) :
    (t.extend path line).IsOpen path place := by
  have written : entry? (t.extend path line) place = some (.file (t.contentAt place ++ line)) := by
    rw [extend_eq, found]
    exact (insert_at t _ (place?_filled found) place).trans (if_pos rfl)
  have free : entry? (t.extend path line) place ≠ some .directory := by
    rw [written]
    simp
  exact ⟨place?_of_keeps (keeps_extend path line t) found free, _, written⟩

theorem isOpen_of_extend (found : (t.extend path line).place? path = some place) :
    (t.extend path line).IsOpen path place := by
  cases before : t.place? path with
  | none =>
    rw [extend_eq, before] at found
    rw [before] at found
    cases found
  | some other =>
    have open_ := isOpen_extend before line
    rw [open_.leads] at found
    cases found
    exact open_

/-! ## What is as it was -/

/-- The second tree has what the first has, and its files hold what they held. -/
structure Preserves (t u : FileTree) : Prop where
  keeps : Keeps t u
  content : ∀ place, u.contentAt place = t.contentAt place

theorem Preserves.refl (t : FileTree) : Preserves t t := ⟨.refl t, fun _ => rfl⟩

theorem Preserves.trans {v : FileTree} (before : Preserves t u) (after : Preserves u v) : Preserves t v :=
  ⟨before.keeps.trans after.keeps, fun place => (after.content place).trans (before.content place)⟩

theorem Grown.preserves {origin : Place} {names : List String} (grown : Grown t u origin names) : Preserves t u :=
  ⟨grown.keeps, grown.contentAt⟩

theorem preserves_extend_empty (path : String) (t : FileTree) : Preserves t (t.extend path .empty) := by
  refine ⟨keeps_extend path .empty t, ?_⟩
  intro place
  rw [contentAt_extend, ByteArray.append_empty, ite_self]

end Content
end FileTree
end MeteredDownload.Files
