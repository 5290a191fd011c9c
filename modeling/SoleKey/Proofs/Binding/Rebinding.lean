import SoleKey.Proofs.Binding

set_option autoImplicit false

namespace SoleKey

namespace FileSystem

variable {files other third : FileSystem} {path : String} {owner listener : Nat}

def NoSocket (files : FileSystem) (path : String) : Prop :=
  ∃ directory name, files.Names path directory name ∧
    ∀ entry, files.find? (directory ++ [name]) = some entry →
      ∀ listener, entry.node ≠ .socket listener

/-- There may be more directories, but no more of anything else. -/
structure Extends (files other : FileSystem) : Prop where
  keeps : files.KeepsDirectories other
  workingDirectory : other.workingDirectory = files.workingDirectory
  added : ∀ location entry, other.find? location = some entry →
    files.find? location = some entry ∨ entry.node = .directory

theorem Extends.refl (files : FileSystem) : files.Extends files where
  keeps := fun _ => id
  workingDirectory := rfl
  added := fun _ _ found => .inl found

theorem Extends.trans (first : files.Extends other) (second : other.Extends third) :
    files.Extends third where
  keeps := fun location there => second.keeps location (first.keeps location there)
  workingDirectory := second.workingDirectory.trans first.workingDirectory
  added := by
    intro location entry found
    cases second.added location entry found with
    | inl earlier => exact first.added location entry earlier
    | inr directory => exact .inr directory

theorem extends_put {location : Location} (mode : Nat) (absent : files.find? location = none) :
    files.Extends (files.put ⟨location, .directory, mode⟩) where
  keeps := isDirectory_put files _ (by simp [isDirectory, absent])
  workingDirectory := rfl
  added := by
    intro there entry found
    by_cases root : there = []
    · subst root
      exact .inl (by simpa [find?] using found)
    · rw [find?_put files _ root] at found
      split at found
      · exact .inr (Option.some.inj found ▸ rfl)
      · exact .inl found

theorem extends_makeDirectory (made : files.makeDirectory path = .ok other) :
    files.Extends other := by
  obtain ⟨ending, _, made⟩ := bind_eq_ok_iff.1 made
  cases ending with
  | unnamed => simp at made
  | named directory name =>
    cases there : files.find? (directory ++ [name]) with
    | some entry => simp [there] at made
    | none =>
      simp only [there, Except.ok.injEq] at made
      exact made ▸ extends_put _ there

theorem extends_ensureDirectory (files : FileSystem) (path : String) :
    files.Extends (files.ensureDirectory path).2 := by
  unfold ensureDirectory
  cases made : files.makeDirectory path with
  | ok next => exact extends_makeDirectory made
  | error problem =>
    dsimp only
    split <;> exact .refl files

theorem extends_makeDirectoriesGo (fuel : Nat) (path : String) (files : FileSystem) :
    files.Extends (makeDirectoriesGo fuel path files).2 := by
  induction fuel generalizing path files with
  | zero => exact .refl files
  | succ fuel ih =>
    unfold makeDirectoriesGo
    split
    · exact .refl files
    · split
      · split
        · split
          · exact .refl files
          · rename_i parent _
            have above := ih parent files
            split
            · rename_i made same
              rw [same] at above
              exact above.trans (extends_ensureDirectory made path)
            · exact above
        · exact .refl files
      · exact extends_ensureDirectory files path

theorem Names.extended {directory : Location} {name : String}
    (named : files.Names path directory name) (grown : files.Extends other) :
    other.Names path directory name :=
  named.kept grown.keeps (by simp [start, grown.workingDirectory])

theorem NoSocket.extended (noSocket : files.NoSocket path) (grown : files.Extends other) :
    other.NoSocket path := by
  obtain ⟨directory, name, named, plain⟩ := noSocket
  refine ⟨directory, name, named.extended grown, fun entry found listener => ?_⟩
  cases grown.added _ _ found with
  | inl earlier => exact plain entry earlier listener
  | inr made => simp [made]

theorem NoSocket.leftAlone (noSocket : files.NoSocket path) (alone : LeavesAlone path files other) :
    other.NoSocket path := by
  obtain ⟨directory, name, named, plain⟩ := noSocket
  have same := alone.entry directory name named.resolveEnding
  exact ⟨directory, name, named.leftAlone alone, same ▸ plain⟩

theorem Vacant.noSocket (vacant : files.Vacant path) : files.NoSocket path := by
  obtain ⟨directory, name, named, unused⟩ := vacant
  exact ⟨directory, name, named, by simp [unused]⟩

theorem NoSocket.listenerAt (noSocket : files.NoSocket path) :
    files.listenerAt path ≠ .ok listener := by
  intro reached
  obtain ⟨directory, name, named, plain⟩ := noSocket
  obtain ⟨kind, _, reached⟩ := bind_eq_ok_iff.1 reached
  cases kind with
  | hidden | chosen => simp at reached
  | path =>
    obtain ⟨entry, found, reached⟩ := bind_eq_ok_iff.1 reached
    rw [named.resolve] at found
    cases there : files.find? (directory ++ [name]) with
    | none => simp [there] at found
    | some stands =>
      obtain rfl : stands = entry := by simpa [there] using found
      have noListener := plain stands there
      cases node : stands.node with
      | directory | file => simp [node] at reached
      | socket other => exact noListener other node

theorem NoSocket.release (noSocket : files.NoSocket path) :
    (Binding.release files path).NoSocket path := by
  obtain ⟨directory, name, named, plain⟩ := noSocket
  cases there : files.find? (directory ++ [name]) with
  | none =>
    have same : Binding.release files path = files := by
      simp [Binding.release, named.unlink, there, Except.toOption]
    rw [same]
    exact ⟨directory, name, named, plain⟩
  | some entry =>
    obtain ⟨location, node, mode⟩ := entry
    cases node with
    | directory =>
      have same : Binding.release files path = files := by
        simp [Binding.release, named.unlink, there, Except.toOption]
      rw [same]
      exact ⟨directory, name, named, plain⟩
    | socket listener => exact absurd rfl (plain _ there listener)
    | file =>
      have removed : Binding.release files path = files.remove (directory ++ [name]) := by
        simp [Binding.release, named.unlink, there, Except.toOption]
      have keeps := isDirectory_remove files (directory ++ [name]) (by simp [isDirectory, there])
      rw [removed]
      exact ⟨directory, name, named.kept keeps rfl, by simp [find?_remove]⟩

theorem HasSocket.setMode_ok (stands : files.HasSocket path listener) (mode : Nat) :
    ∃ restricted, files.setMode path mode = .ok restricted := by
  obtain ⟨_, directory, name, old, named, found⟩ := stands
  have resolved : files.resolve path = .ok ⟨directory ++ [name], .socket listener, old⟩ := by
    simp [named.resolve, found]
  exact ⟨_, bind_eq_ok_iff.2 ⟨_, resolved, rfl⟩⟩

end FileSystem

namespace Binding

open FileSystem (NoSocket)

variable {files : FileSystem} {path : String} {owner listener : Nat} {problem : AgentError}

theorem files_clear (files : FileSystem) (path : String) :
    (clear files path).2 = release files path := by
  unfold clear release
  cases files.unlink path with
  | ok next => rfl
  | error problem =>
    dsimp only
    split <;> rfl

theorem noSocket_makeParent (noSocket : files.NoSocket path) :
    (makeParent files path).2.NoSocket path := by
  unfold makeParent
  split
  · exact noSocket
  · rename_i parent _
    have grown := FileSystem.extends_makeDirectoriesGo (parent.length + 1) parent files
    rw [← FileSystem.makeDirectories] at grown
    split
    · rename_i made same
      rw [same] at grown
      exact noSocket.extended grown
    · rename_i failed made same
      rw [same] at grown
      exact noSocket.extended grown

-- A socket that was bound can be restricted to its owner, so none is left behind.
theorem noSocket_of_attach {left : FileSystem} (noSocket : files.NoSocket path)
    (failed : attach files path listener = (.error problem, left)) : left.NoSocket path := by
  unfold attach at failed
  split at failed
  · exact (Prod.mk.inj failed).2 ▸ noSocket
  · rename_i bound binds
    obtain ⟨directory, name, named, _⟩ := noSocket
    obtain ⟨kind, addressed, _⟩ := bind_eq_ok_iff.1 binds
    obtain rfl := FileSystem.address_of_checkPath named.valid addressed
    have stands := FileSystem.hasSocket_of_bind addressed binds
    obtain ⟨restricted, sets⟩ := stands.setMode_ok socketMode
    simp [sets] at failed

theorem noSocket_of_perform (cleared : (release files path).NoSocket path)
    (failed : (perform files path listener).result = .error problem) :
    (perform files path listener).files.NoSocket path := by
  rw [← files_clear] at cleared
  have made := noSocket_makeParent cleared
  unfold perform at failed ⊢
  dsimp only at failed ⊢
  split at failed
  · rename_i same
    rw [same] at made
    simpa [same] using made
  · rename_i parent same
    rw [same] at made
    split at failed
    · rename_i attaches
      have left := noSocket_of_attach made attaches
      simpa [same, attaches] using left
    · simp at failed

end Binding

end SoleKey
