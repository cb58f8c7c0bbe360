import LiteralLang.CommandLine.Directory

/-!
# Writing to directories

A text that is written to a path is kept in one file, and every other file holds what it held.  The
path leads to that file from then on, so reading it gives the text back.
-/

namespace LiteralLang.CommandLine

/-- What is written to the place is kept in the file of the given path, new or old. -/
def Place.Keeps (place : Place) (path : String) : Prop := place = .file path ∨ place = .vacant path

theorem textOf_toUTF8 (text : String) : textOf text.toUTF8 = .ok text := by
  have valid : text.toUTF8.IsValidUTF8 := text.isValidUTF8
  rw [textOf, String.fromUTF8?, dif_pos valid]
  rfl

namespace Directory

variable {directory : Directory} {path other : String} {bytes : ByteArray}
  {inside components rest : List (List Char)} {reached : Place} {reason : FileFault}

/-! ### Files after a change -/

theorem lookup_map_put (files : List (String × ByteArray)) (path other : String)
    (bytes : ByteArray) :
    (files.map fun (name, old) => if name = path then (name, bytes) else (name, old)).lookup other =
      if other = path then (files.lookup path).map fun _ => bytes else files.lookup other := by
  induction files with
  | nil => simp
  | cons file files ih =>
    obtain ⟨name, old⟩ := file
    by_cases here : name = path
    · subst here
      by_cases same : other = name
      · simp [same]
      · simp [List.lookup_cons, beq_eq_false_iff_ne.mpr same, same, ih]
    · by_cases same : other = path
      · subst same
        simp [List.lookup_cons, beq_eq_false_iff_ne.mpr (Ne.symm here), here, ih]
      · simp [List.lookup_cons, here, same, ih]

/-- The changed file holds the new bytes, and no other file changes. -/
theorem bytes?_put (directory : Directory) (path other : String) (bytes : ByteArray) :
    (directory.put path bytes).bytes? other =
      if other = path then some bytes else directory.bytes? other := by
  rw [put]
  split
  case isTrue held =>
    obtain ⟨file, member, named⟩ := List.any_eq_true.mp held
    obtain ⟨old, found⟩ : ∃ old, directory.files.lookup path = some old := by
      rw [← Option.ne_none_iff_exists', Ne, List.lookup_eq_none_iff]
      intro missing
      simp [← beq_iff_eq.mp named] at missing
      exact missing file.1 file.2 member rfl
    rw [bytes?, bytes?, lookup_map_put, found]
    by_cases same : other = path
    · simp [same]
    · simp [same]
  case isFalse new =>
    have missing : directory.files.lookup path = none := by
      rw [List.lookup_eq_none_iff]
      intro file member
      rw [bne_iff_ne]
      rintro rfl
      exact new (List.any_eq_true.mpr ⟨file, member, beq_self_eq_true _⟩)
    rw [bytes?, bytes?, List.lookup_append]
    by_cases same : other = path
    · simp [same, missing]
    · simp [List.lookup_cons, beq_eq_false_iff_ne.mpr same, same]

@[simp] theorem system_put (directory : Directory) (path : String) (bytes : ByteArray) :
    (directory.put path bytes).system = directory.system := by
  rw [put]
  split <;> rfl

theorem around_put (directory : Directory) (path : String) (bytes : ByteArray) :
    (directory.put path bytes).around = directory.around := by
  funext inside
  unfold around
  rw [system_put]

/-- Directories that are there stay there. -/
theorem isDirectory_put (there : directory.isDirectory other = true) :
    (directory.put path bytes).isDirectory other = true := by
  rw [isDirectory, Bool.or_eq_true] at there ⊢
  rw [system_put]
  refine there.imp_left fun below => ?_
  obtain ⟨⟨name, old⟩, member, under⟩ := List.any_eq_true.mp below
  rw [hasBelow, List.any_append, Bool.or_eq_true]
  rcases List.mem_append.mp member with inside | outside
  · refine Or.inl ?_
    rw [put]
    split
    case isTrue =>
      have changed := List.mem_map_of_mem (f := fun (name, old) =>
        if name = path then (name, bytes) else (name, old)) inside
      refine List.any_eq_true.mpr ⟨_, changed, ?_⟩
      by_cases here : name = path
      · simpa [here] using under
      · simpa [here] using under
    case isFalse => exact List.any_eq_true.mpr ⟨_, List.mem_append_left _ inside, under⟩
  · rw [system_put]
    exact Or.inr (List.any_eq_true.mpr ⟨_, outside, under⟩)

/-! ### Paths after a change -/

theorem endsAt_keeps (found : (endsAt reached reason rest).Keeps path) :
    rest = [] ∧ reached.Keeps path := by
  rw [endsAt] at found
  split at found
  case isTrue last => exact ⟨List.isEmpty_iff.mp last, found⟩
  case isFalse =>
    split at found <;> simp [Place.Keeps] at found

/-- A file that a path leads to is there, or else it stands for no directory. -/
theorem follow_keeps (found : (directory.follow inside components).Keeps path) :
    (directory.bytes? path).isSome = true ∨ directory.isDirectory path = false := by
  fun_induction follow directory inside components with
  | case1 => simp [Place.Keeps] at found
  | case2 inside component rest blank ih => exact ih found
  | case3 inside rest named ih => exact ih found
  | case4 | case6 | case8 => simpa [Place.Keeps] using (endsAt_keeps found).2
  | case5 inside component rest named notUp path' short held =>
    obtain ⟨-, same⟩ := endsAt_keeps found
    have same : path' = path := by simpa [Place.Keeps] using same
    exact Or.inl (same ▸ held)
  | case7 inside component rest named notUp path' short new noDevice there ih => exact ih found
  | case9 inside component rest named notUp path' short new noDevice noDirectory free =>
    obtain ⟨-, same⟩ := endsAt_keeps found
    have same : path' = path := by simpa [Place.Keeps] using same
    exact Or.inr (same ▸ Bool.eq_false_iff.mpr noDirectory)

/-- A path ends at a file that is there. -/
theorem follow_singleton {component : List Char} (named : ¬(component = [] ∨ component = ['.']))
    (notUp : ¬component = ['.', '.'])
    (short : ¬longestName < (String.ofList component).utf8ByteSize)
    (held : directory.bytes? (pathOf (component :: inside)) = some bytes) :
    directory.follow inside [component] = .file (pathOf (component :: inside)) := by
  rw [follow, if_neg named, if_neg notUp]
  simp only [if_neg short]
  rw [held]
  rfl

theorem follow_put (found : (directory.follow inside components).Keeps path) :
    (directory.put path bytes).follow inside components = .file path := by
  have kept := follow_keeps found
  have here := bytes?_put directory path path bytes
  rw [if_pos rfl] at here
  fun_induction follow directory inside components with
  | case1 => simp [Place.Keeps] at found
  | case2 inside component rest blank ih => rw [follow, if_pos blank, ih found]
  | case3 inside rest named ih =>
    rw [follow, if_neg named, if_pos rfl, around_put, ih found]
  | case4 | case6 | case8 => simpa [Place.Keeps] using (endsAt_keeps found).2
  | case5 inside component rest named notUp path' short held =>
    obtain ⟨rfl, same⟩ := endsAt_keeps found
    have same : path' = path := by simpa [Place.Keeps] using same
    subst same
    exact follow_singleton named notUp short here
  | case7 inside component rest named notUp path' short new noDevice there ih =>
    -- The file is not this directory, so this component still leads on.
    have apart : path' ≠ path := by
      rintro rfl
      rw [there] at kept
      simp [new] at kept
    rw [follow, if_neg named, if_neg notUp]
    simp only [if_neg short]
    rw [bytes?_put, if_neg apart, if_neg new, system_put, noDevice]
    dsimp only
    rw [if_pos (isDirectory_put there)]
    exact ih found
  | case9 inside component rest named notUp path' short new noDevice noDirectory free =>
    obtain ⟨rfl, same⟩ := endsAt_keeps found
    have same : path' = path := by simpa [Place.Keeps] using same
    subst same
    exact follow_singleton named notUp short here

/-- The path leads to the changed file. -/
theorem find_put {place : String} (found : (directory.find path).Keeps place) :
    (directory.put place bytes).find path = .file place := by
  rw [find] at found ⊢
  split at found
  case isTrue => simp [Place.Keeps] at found
  case isFalse short =>
    rw [if_neg short]
    split at found
    case h_1 => simp [Place.Keeps] at found
    case h_2 | h_3 => exact follow_put found

/-- What was written to a path is read from it. -/
theorem read_put {place text : String} (found : (directory.find path).Keeps place) :
    (directory.put place text.toUTF8).read path = .ok text := by
  rw [read, find_put found]
  simp only [bytes?_put, if_pos]
  exact textOf_toUTF8 text

/-- A text that could be written is kept in one file. -/
theorem exists_of_write {text : String} {after : Directory}
    (written : directory.write path text = .ok after) :
    ∃ place, (directory.find path).Keeps place ∧ after = directory.put place text.toUTF8 := by
  rw [write] at written
  split at written
  case h_1 place found => exact ⟨place, Or.inl found, (Except.ok.inj written).symm⟩
  case h_2 place found => exact ⟨place, Or.inr found, (Except.ok.inj written).symm⟩
  case h_3 | h_4 | h_5 | h_6 | h_7 => simp at written

end Directory

end LiteralLang.CommandLine
