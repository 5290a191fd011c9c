import SoleKey.FileSystem.Socket
import SoleKey.Proofs.Except
import Mathlib.Data.List.Basic

set_option autoImplicit false

namespace SoleKey

namespace FileSystem

variable {files other : FileSystem} {location : Location} {path : String}

theorem find?_remove (files : FileSystem) (removed : Location) (inside : location ≠ []) :
    (files.remove removed).find? location =
      if location = removed then none else files.find? location := by
  simp only [find?, inside, if_false, remove]
  induction files.entries with
  | nil => simp
  | cons entry rest ih =>
    by_cases asked : entry.location = location
    · by_cases taken : location = removed <;> simp_all
    · by_cases taken : entry.location = removed <;> simp_all

theorem find?_put (files : FileSystem) (entry : Entry) (inside : location ≠ []) :
    (files.put entry).find? location =
      if location = entry.location then some entry else files.find? location := by
  have others := find?_remove files entry.location inside
  simp only [find?, inside, if_false] at others ⊢
  simp only [put, List.find?_append, others]
  by_cases own : location = entry.location
  · simp [own]
  · simp [own, Ne.symm own]

def KeepsDirectories (files other : FileSystem) : Prop :=
  ∀ location, files.isDirectory location = true → other.isDirectory location = true

theorem found_of_isDirectory (directory : files.isDirectory location = true) :
    ∃ entry, files.find? location = some entry := by
  unfold isDirectory at directory
  cases found : files.find? location with
  | none => simp [found] at directory
  | some entry => exact ⟨entry, rfl⟩

theorem directory_of_walk {names : List String} {first : Location}
    (walked : files.walk first names = .ok location)
    (directory : files.isDirectory location = true) : files.isDirectory first = true := by
  cases names with
  | nil => exact Except.ok.inj walked ▸ directory
  | cons name rest =>
    unfold walk at walked
    split at walked
    · simp at walked
    · simp_all

-- All that a walk to a directory comes through are directories, so it finds them again.
theorem walk_kept (kept : files.KeepsDirectories other) {names : List String} {first : Location}
    (walked : files.walk first names = .ok location)
    (directory : files.isDirectory location = true) : other.walk first names = .ok location := by
  induction names generalizing first with
  | nil => simpa [walk] using walked
  | cons name rest ih =>
    have begins := kept first (directory_of_walk walked directory)
    unfold walk at walked ⊢
    split at walked
    · simp at walked
    split at walked
    · simp at walked
    split at walked
    · simp at walked
    · rename_i short _ entry found
      have onward := kept _ (directory_of_walk walked directory)
      obtain ⟨again, stands⟩ := found_of_isDirectory onward
      simp [begins, short, stands, ih walked]

theorem walk_append {leading rest : List String} {first : Location}
    (walked : files.walk first leading = .ok location) :
    files.walk first (leading ++ rest) = files.walk location rest := by
  induction leading generalizing first with
  | nil =>
    obtain rfl := Except.ok.inj walked
    rfl
  | cons name others ih =>
    simp only [List.cons_append, walk] at walked ⊢
    split at walked
    · simp at walked
    split at walked
    · simp at walked
    split at walked
    · simp at walked
    · rename_i begins short _ entry found
      rw [if_neg begins, if_neg short]
      exact ih walked

/-- The path names an entry in a directory, whether there is one or not. -/
structure Names (files : FileSystem) (path : String) (directory : Location) (name : String) :
    Prop where
  valid : checkPath path = .ok ()
  noSlash : Path.endsInSlash path = false
  walked : ∃ leading, names path = leading ++ [name] ∧
    files.walk (files.start path) leading = .ok directory
  isDirectory : files.isDirectory directory = true
  proper : name ≠ "." ∧ name ≠ ".."
  short : ¬name.utf8ByteSize > longestName

theorem names_of_resolveEnding {directory : Location} {name : String}
    (noSlash : Path.endsInSlash path = false)
    (resolved : files.resolveEnding path = .ok (.named directory name)) :
    files.Names path directory name := by
  obtain ⟨_, valid, resolved⟩ := bind_eq_ok_iff.1 resolved
  obtain ⟨reached, walked, resolved⟩ := bind_eq_ok_iff.1 resolved
  cases last : (names path).getLast? with
  | none => simp [last] at resolved
  | some found =>
    simp only [last] at resolved
    split at resolved
    · simp at resolved
    split at resolved
    · simp at resolved
    split at resolved
    · simp at resolved
    · rename_i directory proper short
      obtain ⟨rfl, rfl⟩ := Ending.named.inj (Except.ok.inj resolved)
      exact
        { valid := valid
          noSlash := noSlash
          walked := ⟨_, (List.dropLast_append_getLast? found last).symm, walked⟩
          isDirectory := by simpa using directory
          proper := by simpa using proper
          short := short }

namespace Names

variable {directory : Location} {name : String}

theorem resolveEnding (named : files.Names path directory name) :
    files.resolveEnding path = .ok (.named directory name) := by
  obtain ⟨leading, parts, walked⟩ := named.walked
  have short : name.utf8ByteSize ≤ longestName := Nat.le_of_not_gt named.short
  simp [FileSystem.resolveEnding, named.valid, parts, walked, named.isDirectory, named.proper,
    short, Bind.bind, Except.bind]

theorem named (named : files.Names path directory name) : name.isEmpty = false := by
  obtain ⟨leading, parts, _⟩ := named.walked
  have there : name ∈ names path := by simp [parts]
  simpa using (List.mem_filter.1 there).2

theorem child_eq (named : files.Names path directory name) :
    child directory name = directory ++ [name] := by
  simp [child, named.proper, Path.namesNothing, named.named]

theorem walk (named : files.Names path directory name) :
    files.walk (files.start path) (names path) =
      match files.find? (directory ++ [name]) with
      | none => .error .noSuchFile
      | some _ => .ok (directory ++ [name]) := by
  obtain ⟨leading, parts, walked⟩ := named.walked
  rw [parts, walk_append walked]
  simp only [FileSystem.walk, named.isDirectory, named.short, named.child_eq]
  rfl

theorem resolve (named : files.Names path directory name) :
    files.resolve path =
      match files.find? (directory ++ [name]) with
      | none => .error .noSuchFile
      | some entry => .ok entry := by
  cases found : files.find? (directory ++ [name]) <;>
    simp [FileSystem.resolve, named.valid, named.walk, named.noSlash, found, Bind.bind, Except.bind]

theorem unlink (named : files.Names path directory name) :
    files.unlink path =
      match files.find? (directory ++ [name]) with
      | none => .error .noSuchFile
      | some ⟨_, .directory, _⟩ => .error .isADirectory
      | some _ => .ok (files.remove (directory ++ [name])) := by
  cases found : files.find? (directory ++ [name]) with
  | none => simp [FileSystem.unlink, named.resolveEnding, found, Bind.bind, Except.bind]
  | some entry =>
    obtain ⟨there, node, mode⟩ := entry
    cases node <;>
      simp [FileSystem.unlink, named.resolveEnding, named.noSlash, found, Bind.bind, Except.bind]

theorem kept (named : files.Names path directory name) (keeps : files.KeepsDirectories other)
    (start : other.start path = files.start path) : other.Names path directory name := by
  obtain ⟨leading, parts, walked⟩ := named.walked
  exact
    { valid := named.valid
      noSlash := named.noSlash
      walked := ⟨leading, parts, start ▸ walk_kept keeps walked named.isDirectory⟩
      isDirectory := keeps directory named.isDirectory
      proper := named.proper
      short := named.short }

end Names

theorem isDirectory_put (files : FileSystem) (entry : Entry)
    (plain : files.isDirectory entry.location = false) :
    files.KeepsDirectories (files.put entry) := by
  intro there directory
  by_cases root : there = []
  · subst root
    simp [isDirectory, find?, rootEntry]
  · have apart : there ≠ entry.location := by
      intro same
      simp [same ▸ directory] at plain
    simpa [isDirectory, find?_put files entry root, apart] using directory

theorem isDirectory_remove (files : FileSystem) (removed : Location)
    (plain : files.isDirectory removed = false) :
    files.KeepsDirectories (files.remove removed) := by
  intro there directory
  by_cases root : there = []
  · subst root
    simp [isDirectory, find?, rootEntry]
  · have apart : there ≠ removed := by
      intro same
      simp [same ▸ directory] at plain
    simpa [isDirectory, find?_remove files removed root, apart] using directory

end FileSystem

end SoleKey
