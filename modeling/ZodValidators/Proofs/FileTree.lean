import ZodValidators.FileTree
import ZodValidators.Gather

/-!
# What writing a file changes

Making directories changes no file. Writing changes the file at one place, which is found through
the same directory afterwards, and leaves all other files as they are.
-/

set_option autoImplicit false

namespace ZodValidators

namespace FilePath

theorem not_mem_collapse (names : List String) : ".." ∉ collapse names := by
  have kept (before : List String) (none : ".." ∉ before) :
      ".." ∉ names.foldl (fun before name =>
        if name = ".." then before.dropLast else before ++ [name]) before := by
    induction names generalizing before with
    | nil => exact none
    | cons name rest ih =>
        rw [List.foldl_cons]
        apply ih
        by_cases up : name = ".."
        · rw [if_pos up]
          exact fun member => none (List.dropLast_subset before member)
        · rw [if_neg up, List.mem_append, List.mem_singleton, not_or]
          exact ⟨none, fun same => up same.symm⟩
  exact kept [] List.not_mem_nil

theorem name_resolve_ne (path : FilePath) (working : List String) :
    (path.resolve working).name ≠ ".." := by
  rw [name]
  cases last : (path.resolve working).names.getLast? with
  | none => simp
  | some name =>
      rw [Option.getD_some]
      rintro rfl
      exact not_mem_collapse _ (List.mem_of_getLast? last)

end FilePath

namespace FileTree

/-! ## Files -/

private theorem lookup_cons_file (place present : Place) (bytes : List UInt8)
    (files : List (Place × List UInt8)) :
    ((present, bytes) :: files).lookup place =
      if place = present then some bytes else files.lookup place := by
  rw [List.lookup_cons]
  by_cases same : (place == present) = true
  · rw [if_pos (eq_of_beq same), same]
  · rw [if_neg fun equal => same (beq_iff_eq.mpr equal), Bool.eq_false_iff.mpr same]

theorem lookup_putFile (place other : Place) (bytes : List UInt8)
    (files : List (Place × List UInt8)) :
    (putFile place bytes files).lookup other =
      if other = place then some bytes else files.lookup other := by
  induction files with
  | nil => rw [putFile, lookup_cons_file]
  | cons file rest ih =>
      obtain ⟨present, old⟩ := file
      rw [putFile]
      by_cases replaced : present = place
      · rw [if_pos replaced, lookup_cons_file, lookup_cons_file, replaced]
        split <;> rfl
      · rw [if_neg replaced, lookup_cons_file, lookup_cons_file, ih]
        by_cases same : other = present
        · rw [if_pos same, if_pos same, if_neg fun equal => replaced (same.symm.trans equal)]
        · rw [if_neg same, if_neg same]

theorem mem_places_putFile {place other : Place} {bytes : List UInt8}
    {files : List (Place × List UInt8)} (member : other ∈ files.map Prod.fst) :
    other ∈ (putFile place bytes files).map Prod.fst := by
  induction files with
  | nil => cases member
  | cons file rest ih =>
      obtain ⟨present, old⟩ := file
      rw [List.map_cons, List.mem_cons] at member
      by_cases replaced : present = place
      · simpa [putFile, replaced] using member
      · simp only [putFile, replaced, if_false, List.map_cons, List.mem_cons]
        exact member.imp_right ih

/-! ## Following names -/

/-- Whatever is at a place of the tree is at the same place of the other one, and both have one
working directory. -/
structure IsWithin (tree larger : FileTree) : Prop where
  working : larger.working = tree.working
  directory : ∀ place, tree.isDirectoryAt place = true → larger.isDirectoryAt place = true
  file : ∀ place, (tree.fileAt? place).isSome = true → (larger.fileAt? place).isSome = true

theorem IsWithin.existsAt {tree larger : FileTree} (within : tree.IsWithin larger) {place : Place}
    (present : tree.existsAt place = true) : larger.existsAt place = true := by
  rw [FileTree.existsAt, Bool.or_eq_true] at present ⊢
  exact present.imp (within.file place) (within.directory place)

theorem IsWithin.follow {tree larger : FileTree} (within : tree.IsWithin larger)
    {start place : Place} {names : List String} (led : tree.follow start names = .ok place) :
    larger.follow start names = .ok place := by
  induction names generalizing start with
  | nil => exact led
  | cons name rest ih =>
      rw [FileTree.follow] at led ⊢
      by_cases directory : tree.isDirectoryAt start = true
      · simp only [directory, within.directory start directory, Bool.not_true, Bool.false_eq_true,
          if_false] at led ⊢
        by_cases stays : (decide (name = "") || decide (name = ".")) = true
        · rw [if_pos stays] at led ⊢
          exact ih led
        · rw [if_neg stays] at led ⊢
          by_cases up : name = ".."
          · rw [if_pos up] at led ⊢
            exact ih led
          · rw [if_neg up] at led ⊢
            by_cases tooLong : longestName < name.utf8ByteSize
            · rw [if_pos tooLong] at led
              cases led
            · rw [if_neg tooLong] at led ⊢
              by_cases present : tree.existsAt (start ++ [name]) = true
              · rw [if_pos present] at led
                rw [if_pos (within.existsAt present)]
                exact ih led
              · rw [if_neg present] at led
                cases led
      · simp [directory] at led

theorem IsWithin.locate {tree larger : FileTree} (within : tree.IsWithin larger)
    {absolute : Bool} {names : List String} {place : Place}
    (led : tree.locate absolute names = .ok place) : larger.locate absolute names = .ok place := by
  rw [FileTree.locate] at led ⊢
  rw [within.working]
  exact within.follow led

theorem isWithin_putFile (tree : FileTree) (place : Place) (bytes : List UInt8) :
    tree.IsWithin { tree with files := putFile place bytes tree.files } where
  working := rfl
  directory := by
    intro other present
    simp only [isDirectoryAt, Bool.or_eq_true, List.any_eq_true] at present ⊢
    refine present.imp_right ?_
    rintro ⟨⟨above, old⟩, member, below⟩
    obtain ⟨kept, inside, same⟩ := List.mem_map.mp
      (mem_places_putFile (List.mem_map_of_mem member))
    exact ⟨kept, inside, same ▸ below⟩
  file := by
    intro other present
    rw [fileAt?, lookup_putFile]
    split
    · rfl
    · exact present

/-! ## Writing -/

/-- Bytes stand at the end of a path, in the directory that the names before its last one lead to,
and all other files are those of the tree. -/
def HasWritten (tree left : FileTree) (path : FilePath) (bytes : List UInt8) : Prop :=
  ∃ directory, left.locate path.absolute path.parent.names = .ok directory ∧
    ∀ place, left.fileAt? place =
      if place = directory ++ [path.name] then some bytes else tree.fileAt? place

theorem hasWritten_of_write_eq_ok {tree left : FileTree} {path : FilePath} {bytes : List UInt8}
    (named : path.name ≠ "..") (written : tree.write path bytes = .ok left) :
    tree.HasWritten left path bytes := by
  rw [write] at written
  split at written
  · cases written
  · split at written
    · cases written
    · obtain ⟨directory, led, put⟩ := bind_eq_ok_iff.mp written
      dsimp only at put
      split at put
      · cases put
      · split at put
        · cases put
        · split at put
          · cases put
          · cases put
            exact ⟨directory, (isWithin_putFile tree _ bytes).locate led,
              fun place => lookup_putFile _ place bytes tree.files⟩

theorem files_makeDirectory {tree left : FileTree} {path : FilePath}
    (made : tree.makeDirectory path = .ok left) : left.files = tree.files := by
  rw [makeDirectory] at made
  split at made
  · cases made
  · split at made
    · cases made
    · obtain ⟨parent, _, added⟩ := bind_eq_ok_iff.mp made
      split at added
      · cases added
      · split at added
        · cases added
        · split at added
          · cases added
          · cases added
            rfl

theorem files_allowExisting {tree left : FileTree} {path : FilePath}
    {result : Except FileFault FileTree}
    (same : ∀ made, result = .ok made → made.files = tree.files)
    (allowed : tree.allowExisting path result = .ok left) : left.files = tree.files := by
  cases result with
  | ok made =>
      cases allowed
      exact same left rfl
  | error fault =>
      rw [allowExisting] at allowed
      split at allowed
      · split at allowed
        · cases allowed
          rfl
        · cases allowed
      · cases allowed

/-- The tree behind an attempt, whether it succeeded or not. -/
def leftBy : Except Refusal FileTree → FileTree
  | .ok left => left
  | .error refusal => refusal.left

theorem files_leftBy_allowExisting (tree : FileTree) (path : FilePath) :
    (leftBy ((tree.allowExisting path (tree.makeDirectory path)).mapError (⟨·, tree⟩))).files =
      tree.files := by
  cases allowed : tree.allowExisting path (tree.makeDirectory path) with
  | ok left => exact files_allowExisting (fun _ => files_makeDirectory) allowed
  | error fault => rfl

theorem files_leftBy_makeDirectoriesFrom (tree : FileTree) (absolute : Bool)
    (reversed : List String) :
    (leftBy (tree.makeDirectoriesFrom absolute reversed)).files = tree.files := by
  induction reversed with
  | nil => rfl
  | cons name before ih =>
      rw [makeDirectoriesFrom]
      split
      · cases above : tree.makeDirectoriesFrom absolute before with
        | error refusal =>
            rw [above] at ih
            exact ih
        | ok prepared =>
            rw [above] at ih
            exact (files_leftBy_allowExisting prepared _).trans ih
      · exact files_leftBy_allowExisting tree _

theorem hasWritten_of_writeWithDirectories_eq_ok {tree left : FileTree} {path : FilePath}
    {bytes : List UInt8} (named : path.name ≠ "..")
    (written : tree.writeWithDirectories path bytes = .ok left) :
    tree.HasWritten left path bytes := by
  rw [writeWithDirectories] at written
  have kept : (leftBy (tree.makeDirectories path.parent)).files = tree.files :=
    files_leftBy_makeDirectoriesFrom tree _ _
  obtain ⟨prepared, made, put⟩ := bind_eq_ok_iff.mp written
  rw [made] at kept
  obtain ⟨directory, led, files⟩ := hasWritten_of_write_eq_ok named (mapError_eq_ok_iff.mp put)
  exact ⟨directory, led, fun place => by rw [files, fileAt?, fileAt?, ← kept, leftBy]⟩

/-- A file that cannot be written leaves directories behind at most. -/
theorem files_of_writeWithDirectories_eq_error {tree : FileTree} {path : FilePath}
    {bytes : List UInt8} {refusal : Refusal}
    (refused : tree.writeWithDirectories path bytes = .error refusal) :
    refusal.left.files = tree.files := by
  rw [writeWithDirectories] at refused
  have kept : (leftBy (tree.makeDirectories path.parent)).files = tree.files :=
    files_leftBy_makeDirectoriesFrom tree _ _
  obtain earlier | ⟨prepared, made, later⟩ := bind_eq_error_iff.mp refused
  · rw [earlier] at kept
    exact kept
  · rw [made] at kept
    obtain ⟨fault, _, rfl⟩ := mapError_eq_error_iff.mp later
    exact kept

end FileTree

end ZodValidators
