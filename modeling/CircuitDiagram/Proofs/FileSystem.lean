import Mathlib.Data.List.Basic
import CircuitDiagram.FileSystem
import CircuitDiagram.Proofs.Path

/-!
What is in files, and what making directories and writing a file does to it. Directories are made
only where nothing is, so no file changes; a file is written where its path leads, and no other
changes.
-/

namespace CircuitDiagram.FileSystem

/-- What is in the file at a location. -/
def contentAt (files : FileSystem) (location : Location) : Option (List UInt8) :=
  match files.get? location with
  | some (.file content _) => some content
  | _ => none

def startsNothing : Starter FileSystem := fun _ _ _ files => (.error .notFound, files)

/-- Files, and no programs. -/
def bareHost : Host FileSystem := host startsNothing

/-- The same files with the same content, and paths lead to them as before. -/
structure SameFiles (files other : FileSystem) : Prop where
  working : other.working = files.working
  contents : other.contentAt = files.contentAt

namespace SameFiles

variable {files made last : FileSystem}

theorem refl (files : FileSystem) : SameFiles files files :=
  ⟨rfl, rfl⟩

theorem trans (first : SameFiles files made) (second : SameFiles made last) :
    SameFiles files last :=
  ⟨second.working.trans first.working, second.contents.trans first.contents⟩

end SameFiles

section Entries

theorem lookup_putEntry (location other : Location) (entry : Entry)
    (entries : List (Location × Entry)) :
    (putEntry location entry entries).lookup other =
      if other = location then some entry else entries.lookup other := by
  induction entries with
  | nil =>
      by_cases same : other = location
      · simp [putEntry, same]
      · simp [putEntry, same]
  | cons first rest ih =>
      obtain ⟨place, old⟩ := first
      simp only [putEntry]
      by_cases here : place = location
      · subst here
        by_cases same : other = place
        · simp [same]
        · simp [same, List.lookup_cons, beq_false_of_ne same]
      · by_cases same : other = place
        · subst same
          simp [here]
        · simp [here, List.lookup_cons, beq_false_of_ne same, ih]

theorem get?_put (files : FileSystem) (directory : Location) (name : String) (other : Location)
    (entry : Entry) :
    (files.put (directory ++ [name]) entry).get? other =
      if other = directory ++ [name] then some entry else files.get? other := by
  cases other with
  | nil => simp [get?]
  | cons first rest => simp [get?, put, lookup_putEntry]

theorem contentAt_put (files : FileSystem) (directory : Location) (name : String)
    (other : Location) (content : List UInt8) (executable : Bool) :
    (files.put (directory ++ [name]) (.file content executable)).contentAt other =
      if other = directory ++ [name] then some content else files.contentAt other := by
  rw [contentAt, get?_put]
  by_cases here : other = directory ++ [name]
  · rw [if_pos here, if_pos here]
  · rw [if_neg here, if_neg here, contentAt]

theorem sameFiles_put {files : FileSystem} {directory : Location} {name : String}
    (vacant : files.get? (directory ++ [name]) = none) :
    SameFiles files (files.put (directory ++ [name]) .directory) := by
  refine ⟨rfl, funext fun other => ?_⟩
  rw [contentAt, get?_put]
  by_cases here : other = directory ++ [name]
  · rw [if_pos here, contentAt, here, vacant]
  · rw [if_neg here, contentAt]

end Entries

section Directories

variable (files : FileSystem)

theorem sameFiles_makeDirectory (path : String) :
    SameFiles files (files.makeDirectory path).2 := by
  simp only [makeDirectory]
  split
  · exact .refl files
  · split
    · exact .refl files
    · split
      · exact .refl files
      · split
        · exact .refl files
        · split
          · exact .refl files
          · rename_i vacant
            exact sameFiles_put (by simpa using vacant)

theorem sameFiles_missing (paths : List String) : SameFiles files (files.missing paths).2 := by
  induction paths with
  | nil => exact .refl files
  | cons path outer ih =>
      have made := sameFiles_makeDirectory files path
      simp only [missing]
      split
      · rename_i answered
        rwa [answered] at made
      · split
        · split
          · rename_i answered
            rwa [answered] at ih
          · rename_i answered
            rwa [answered] at ih
        · split <;> exact .refl files

theorem sameFiles_makeEach (paths : List String) : SameFiles files (makeEach files paths).2 := by
  induction paths generalizing files with
  | nil => exact .refl files
  | cons path rest ih =>
      have made := sameFiles_makeDirectory files path
      simp only [makeEach]
      split
      · rename_i answered
        rw [answered] at made
        exact made.trans (ih _)
      · split
        · exact ih files
        · exact .refl files

theorem sameFiles_makeDirectories (path : String) :
    SameFiles files (files.makeDirectories path).2 := by
  have around := sameFiles_missing files (Path.ancestors path)
  simp only [makeDirectories]
  split
  · rename_i answered
    rwa [answered] at around
  · rename_i answered
    rw [answered] at around
    exact around.trans (sameFiles_makeEach _ _)

end Directories

section Places

/-- One name further on, whatever is there. -/
def onward (location : Location) (name : String) : Location :=
  if name.isEmpty || name == "." then location
  else if name == ".." then location.dropLast
  else location ++ [name]

/-- Where a file at a path is, if the directories on the way are there. -/
def placeOf (working : Location) (path : String) : Location :=
  let names := withoutTrailing (Path.names path)
  names.dropLast.foldl onward (if Path.isAbsolute path then [] else working) ++
    [names.getLastD ""]

variable {files : FileSystem}

theorem step_eq {location next : Location} {name : String}
    (stepped : files.step location name = .ok next) : next = onward location name := by
  rw [step] at stepped
  split at stepped
  · cases stepped
  · split at stepped
    · cases stepped
      rw [onward, if_pos ‹_›]
    · split at stepped
      · cases stepped
        rw [onward, if_neg ‹_›, if_pos ‹_›]
      · split at stepped
        · cases stepped
        · split at stepped
          · cases stepped
            rw [onward, if_neg ‹_›, if_neg ‹_›]
          · cases stepped

theorem walk_eq {location reached : Location} {names : List String}
    (walked : files.walk location names = .ok reached) :
    reached = names.foldl onward location := by
  induction names generalizing location with
  | nil =>
      cases walked
      rfl
  | cons name rest ih =>
      rw [walk] at walked
      split at walked
      · cases walked
      · rename_i stepped
        rw [List.foldl_cons, ← step_eq stepped]
        exact ih walked

theorem namesOf_eq {path : String} {names : List String} (looked : namesOf path = .ok names) :
    names = Path.names path := by
  rw [namesOf] at looked
  split at looked
  · cases looked
  · split at looked
    · cases looked
    · split at looked
      · cases looked
      · cases looked
        rfl

theorem parent_eq {path name : String} {names : List String} {directory : Location}
    (found : files.parent path names = .ok (directory, name)) :
    directory = names.dropLast.foldl onward (files.start path) ∧ name = names.getLastD "" := by
  rw [parent] at found
  split at found
  · cases found
  · rename_i reached walked
    split at found
    · cases found
      exact ⟨walk_eq walked, rfl⟩
    · cases found

theorem fileLocation_eq {path : String} {location : Location}
    (located : files.fileLocation path = .ok location) :
    location = placeOf files.working path := by
  rw [fileLocation] at located
  split at located
  · cases located
  · rename_i names looked
    split at located
    · cases located
    · rename_i directory name found
      obtain ⟨around, last⟩ := parent_eq found
      rw [namesOf_eq looked] at around last
      split at located
      · cases located
      · split at located
        · cases located
        · split at located
          · cases located
          · cases located
            rw [placeOf, around, last, start]

/-- A file that has been written holds what was written, and every other file what it held. -/
theorem writeFile_eq {path : String} {content : List UInt8} {after : FileSystem}
    (written : files.writeFile path content = (.ok (), after))
    (kept : placeOf files.working path ≠ nullDevice) :
    after.working = files.working ∧
      ∀ location, after.contentAt location =
        if location = placeOf files.working path then some content
        else files.contentAt location := by
  rw [writeFile] at written
  split at written
  · cases written
  · rename_i location located
    cases written
    rw [fileLocation_eq located, fill, if_neg kept]
    exact ⟨rfl, fun location => contentAt_put files _ _ location content _⟩

theorem placeOf_join (working : Location) (directory : String) {name : String}
    (plain : '/' ∉ name.toList) (named : name ≠ "") :
    ∃ front, placeOf working (Path.join directory name) = front ++ [name] := by
  obtain ⟨before, names⟩ := Path.names_join directory plain
  have last : withoutTrailing (Path.names (Path.join directory name)) = before ++ [name] := by
    simp [withoutTrailing, names, named]
  exact ⟨_, by rw [placeOf, last, List.getLastD_concat]⟩

end Places

end CircuitDiagram.FileSystem
