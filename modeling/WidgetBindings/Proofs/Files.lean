import Mathlib.Data.List.Basic
import WidgetBindings.FileSystem.Basic

namespace WidgetBindings

/-! What making directories and writing a file do to the files that are not empty.

Making directories may fail in the middle and leave some of them behind, but no step of it reaches a
file. Only the write itself does, and it comes last.
-/

/-- What is in a file that is not empty. -/
def Node.content? : Node → Option Text
  | .file (first :: rest) => some (first :: rest)
  | _ => none

namespace FileSystem

variable {files after : FileSystem} {path : Path} {content : Text} {location : Location}

/-- The files that are not empty, by their locations. -/
def filled (files : FileSystem) : List (Location × Text) :=
  files.entries.filterMap fun (location, node) => node.content?.map (location, ·)

theorem contents_eq_filled (files : FileSystem) :
    files.contents = files.filled.filterMap fun (location, content) =>
      (files.workingDirectory.isPrefixOf? location).map fun names =>
        (Path.slashSeparated names, content) := by
  rw [contents, filled, List.filterMap_filterMap]
  refine List.filterMap_congr ?_
  rintro ⟨location, node⟩ -
  match node with
  | .directory => rfl
  | .file [] => rfl
  | .file (first :: rest) =>
      cases inside : files.workingDirectory.isPrefixOf? location <;> simp [inside, Node.content?]

theorem isFile_eq_true_iff :
    files.isFile path = .ok true ↔ ∃ content, files.stat? path = some (.file content) := by
  unfold isFile stat?
  cases files.locate path with
  | error fault => cases fault <;> simp
  | ok location =>
      cases stands : files.node? location with
      | none => simp [stands]
      | some node => cases node <;> simp [stands]

/-- At a path stands the only file that is not empty. -/
def HoldsOnly (files : FileSystem) (path : Path) (content : Text) : Prop :=
  ∃ location, files.locate path = .ok location ∧ files.node? location = some (.file content) ∧
    files.filled = [(location, content)]

theorem contents_of_holdsOnly (only : files.HoldsOnly path content) {names : List Text}
    (inside : files.locate path = .ok (files.workingDirectory ++ names)) :
    files.contents = [(Path.slashSeparated names, content)] := by
  obtain ⟨location, located, -, alone⟩ := only
  obtain rfl : location = files.workingDirectory ++ names :=
    Except.ok.inj (located.symm.trans inside)
  have stripped : files.workingDirectory.isPrefixOf? (files.workingDirectory ++ names) =
      some names := List.isPrefixOf?_eq_some_iff_append_eq.mpr rfl
  rw [contents_eq_filled, alone]
  simp only [List.filterMap_cons, stripped, Option.map_some, List.filterMap_nil]

/-- The files that are not empty are the same, and paths start in the same place. -/
structure SameFiles (before after : FileSystem) : Prop where
  workingDirectory : after.workingDirectory = before.workingDirectory
  filled : after.filled = before.filled

namespace SameFiles

theorem refl (files : FileSystem) : SameFiles files files := ⟨rfl, rfl⟩

theorem trans {first second third : FileSystem} (early : SameFiles first second)
    (late : SameFiles second third) : SameFiles first third :=
  ⟨late.workingDirectory.trans early.workingDirectory, late.filled.trans early.filled⟩

end SameFiles

theorem sameFiles_put_directory (free : files.node? location = none) :
    SameFiles files (files.put location .directory) := by
  have unlisted : files.entries.lookup location = none := by
    unfold node? at free
    split at free
    · cases free
    · exact free
  have kept : files.entries.filter (·.1 != location) = files.entries := by
    refine List.filter_eq_self.mpr fun entry listed => ?_
    exact bne_comm.trans (List.lookup_eq_none_iff.mp unlisted entry listed)
  exact ⟨rfl, by simp [put, filled, kept, Node.content?]⟩

theorem sameFiles_createDirectory (created : files.createDirectory path = .ok after) :
    SameFiles files after := by
  unfold createDirectory at created
  split at created
  · cases created
  · split at created
    · cases created
    · next free =>
        cases created
        exact sameFiles_put_directory free

theorem sameFiles_ensureDirectory (ensured : files.ensureDirectory path = .ok after) :
    SameFiles files after := by
  unfold ensureDirectory at ensured
  split at ensured
  · next created =>
      cases ensured
      exact sameFiles_createDirectory created
  · split at ensured
    · cases ensured
      exact .refl files
    · cases ensured

theorem sameFiles_attempt {result : Except FileError FileSystem}
    (succeeded : ∀ after, result = .ok after → SameFiles files after) :
    SameFiles files (files.attempt result).files := by
  cases result with
  | error error => exact .refl files
  | ok after => exact succeeded after rfl

theorem sameFiles_andThen {change : Change} {step : FileSystem → Except FileError FileSystem}
    (before : SameFiles files change.files)
    (succeeded : ∀ after, step change.files = .ok after → SameFiles change.files after) :
    SameFiles files (change.andThen step).files := by
  unfold Change.andThen
  split
  · exact before
  · exact before.trans (sameFiles_attempt succeeded)

theorem sameFiles_ensureChain (anchor : Anchor) (allowed : Nat) (names : List Text) :
    SameFiles files (files.ensureChain anchor allowed names).files := by
  induction names generalizing allowed with
  | nil =>
      unfold ensureChain
      exact sameFiles_attempt fun _ => sameFiles_ensureDirectory
  | cons name outer ih =>
      unfold ensureChain
      dsimp only
      split
      · exact .refl files
      · exact sameFiles_andThen (ih _) fun _ => sameFiles_ensureDirectory
      · exact sameFiles_attempt fun _ => sameFiles_ensureDirectory

theorem sameFiles_ensureDirectories (path : Path) :
    SameFiles files (files.ensureDirectories path).files :=
  sameFiles_ensureChain _ _ _

theorem write_eq_ok (written : files.write path content = .ok after) :
    ∃ location, files.locate path = .ok location ∧ files.node? location ≠ some .directory ∧
      after = files.put location (.file content) := by
  unfold write at written
  split at written
  · cases written
  · next location located =>
      split at written
      · cases written
      · next undirected =>
          cases written
          exact ⟨location, located, undirected, rfl⟩

theorem lookup_filter_ne {place : Location} (elsewhere : place ≠ location)
    (entries : List (Location × Node)) :
    (entries.filter (·.1 != location)).lookup place = entries.lookup place := by
  induction entries with
  | nil => rfl
  | cons entry rest ih =>
      obtain ⟨listed, node⟩ := entry
      by_cases same : listed = location
      · subst same
        rw [List.filter_cons_of_neg (by simp), ih, List.lookup_cons, beq_false_of_ne elsewhere]
      · rw [List.filter_cons_of_pos (by simpa using same), List.lookup_cons, List.lookup_cons, ih]

theorem node?_put_of_ne {place : Location} (elsewhere : place ≠ location) (node : Node) :
    (files.put location node).node? place = files.node? place := by
  simp only [node?, put, List.lookup_cons, beq_false_of_ne elsewhere, lookup_filter_ne elsewhere]

theorem node?_put_self (undirected : files.node? location ≠ some .directory) (node : Node) :
    (files.put location node).node? location = some node := by
  unfold node? at undirected ⊢
  split at undirected
  · exact absurd rfl undirected
  · next outside =>
      rw [put, if_neg outside, List.lookup_cons_self]

/-- The names of a path lead through directories only, so a file that is put elsewhere changes no
way. -/
theorem descend_put (undirected : files.node? location ≠ some .directory) {start found : Location}
    {names : List Text} (led : files.descend start names = .ok found) (node : Node) :
    (files.put location node).descend start names = .ok found := by
  induction names generalizing start with
  | nil => exact led
  | cons name rest ih =>
      unfold descend at led ⊢
      split at led
      · cases led
      · cases led
      · next directory =>
          have elsewhere : start ≠ location := by
            rintro rfl
            exact undirected directory
          rw [node?_put_of_ne elsewhere, directory]
          split at led
          · cases led
          · next short =>
              dsimp only
              rw [if_neg short]
              exact ih led

theorem locate_put (undirected : files.node? location ≠ some .directory)
    (located : files.locate path = .ok location) (node : Node) :
    (files.put location node).locate path = .ok location := by
  unfold locate at located ⊢
  split at located
  · cases located
  · next clean =>
      split at located
      · cases located
      · next short =>
          rw [if_neg clean, if_neg short]
          exact descend_put undirected located node

theorem filled_put (blank : files.filled = []) (nonempty : content ≠ []) :
    (files.put location (.file content)).filled = [(location, content)] := by
  obtain ⟨first, rest, rfl⟩ := List.exists_cons_of_ne_nil nonempty
  have others : (files.entries.filter (·.1 != location)).filterMap
      (fun (place, node) => node.content?.map (place, ·)) = [] :=
    List.sublist_nil.mp (blank ▸ List.filter_sublist.filterMap _)
  rw [filled, put, List.filterMap_cons, others]
  rfl

theorem holdsOnly_of_write (blank : files.filled = []) (nonempty : content ≠ [])
    (written : files.write path content = .ok after) : after.HoldsOnly path content := by
  obtain ⟨location, located, undirected, rfl⟩ := write_eq_ok written
  exact ⟨location, locate_put undirected located _, node?_put_self undirected _,
    filled_put blank nonempty⟩

/-- Directories may be there without the file, but nothing is in a file unless all has gone well. -/
theorem writeBelow_cases (files : FileSystem) (path : Path) (content : Text) :
    let change := files.writeBelow path content
    ((∃ error, change.error? = some error) ∧ SameFiles files change.files) ∨
      change.error? = none ∧
        ∃ made, SameFiles files made ∧ made.write path content = .ok change.files := by
  intro change
  have made : SameFiles files (files.ensureDirectories path.parent).files :=
    sameFiles_ensureDirectories path.parent
  unfold change writeBelow Change.andThen
  split
  · next error failed => exact .inl ⟨⟨error, failed⟩, made⟩
  · cases written : (files.ensureDirectories path.parent).files.write path content with
    | error error =>
        dsimp only
        rw [written]
        exact .inl ⟨⟨error, rfl⟩, made⟩
    | ok after =>
        dsimp only
        rw [written]
        exact .inr ⟨rfl, _, made, written⟩

theorem workingDirectory_writeBelow (files : FileSystem) (path : Path) (content : Text) :
    (files.writeBelow path content).files.workingDirectory = files.workingDirectory := by
  rcases writeBelow_cases files path content with ⟨-, same⟩ | ⟨-, made, same, last⟩
  · exact same.workingDirectory
  · obtain ⟨location, -, -, put⟩ := write_eq_ok last
    rw [put]
    exact same.workingDirectory

theorem sameFiles_of_writeBelow {error : FileError}
    (failed : (files.writeBelow path content).error? = some error) :
    SameFiles files (files.writeBelow path content).files := by
  rcases writeBelow_cases files path content with ⟨-, same⟩ | ⟨written, -⟩
  · exact same
  · cases failed.symm.trans written

theorem holdsOnly_of_writeBelow (blank : files.filled = []) (nonempty : content ≠ [])
    (written : (files.writeBelow path content).error? = none) :
    (files.writeBelow path content).files.HoldsOnly path content := by
  rcases writeBelow_cases files path content with ⟨⟨error, failed⟩, -⟩ | ⟨-, made, same, last⟩
  · cases failed.symm.trans written
  · exact holdsOnly_of_write (same.filled.trans blank) nonempty last

theorem stat?_of_writeBelow (written : (files.writeBelow path content).error? = none) :
    (files.writeBelow path content).files.stat? path = some (.file content) := by
  rcases writeBelow_cases files path content with ⟨⟨error, failed⟩, -⟩ | ⟨-, made, same, last⟩
  · cases failed.symm.trans written
  · obtain ⟨location, located, undirected, put⟩ := write_eq_ok last
    rw [put, stat?, locate_put undirected located]
    exact node?_put_self undirected _

end FileSystem

end WidgetBindings
