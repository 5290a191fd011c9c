import SoleKey.Binding
import SoleKey.Proofs.Effect
import SoleKey.Proofs.FileSystem

set_option autoImplicit false

namespace SoleKey

namespace FileSystem

variable {files other : FileSystem} {path : String} {listener : Nat}

def HasSocket (files : FileSystem) (path : String) (listener : Nat) : Prop :=
  address path = .ok .path ∧ ∃ directory name mode, files.Names path directory name ∧
    files.find? (directory ++ [name]) = some ⟨directory ++ [name], .socket listener, mode⟩

def Vacant (files : FileSystem) (path : String) : Prop :=
  ∃ directory name, files.Names path directory name ∧ files.find? (directory ++ [name]) = none

-- Whatever else has changed, the path ends where it ended, and what stands there is the same.
structure LeavesAlone (path : String) (files other : FileSystem) : Prop where
  ending : other.resolveEnding path = files.resolveEnding path
  entry : ∀ directory name, files.resolveEnding path = .ok (.named directory name) →
    other.find? (directory ++ [name]) = files.find? (directory ++ [name])

theorem Names.leftAlone {directory : Location} {name : String}
    (named : files.Names path directory name) (alone : LeavesAlone path files other) :
    other.Names path directory name :=
  names_of_resolveEnding named.noSlash (alone.ending.trans named.resolveEnding)

theorem HasSocket.leftAlone (stands : files.HasSocket path listener)
    (alone : LeavesAlone path files other) : other.HasSocket path listener := by
  obtain ⟨plain, directory, name, mode, named, found⟩ := stands
  have same := alone.entry directory name named.resolveEnding
  exact ⟨plain, directory, name, mode, named.leftAlone alone, same.trans found⟩

theorem Vacant.leftAlone (vacant : files.Vacant path) (alone : LeavesAlone path files other) :
    other.Vacant path := by
  obtain ⟨directory, name, named, unused⟩ := vacant
  have same := alone.entry directory name named.resolveEnding
  exact ⟨directory, name, named.leftAlone alone, same.trans unused⟩

theorem HasSocket.listenerAt (stands : files.HasSocket path listener) :
    files.listenerAt path = .ok listener := by
  obtain ⟨plain, directory, name, mode, named, found⟩ := stands
  simp [FileSystem.listenerAt, plain, named.resolve, found, Bind.bind, Except.bind]

theorem Vacant.absent (vacant : files.Vacant path) : files.isPresent path = false := by
  obtain ⟨directory, name, named, unused⟩ := vacant
  simp [isPresent, named.resolve, unused, Except.isOk, Except.toBool]

-- Hidden and chosen addresses belong to paths that nothing else can be done with.
theorem address_of_checkPath (valid : checkPath path = .ok ()) {found : Address}
    (addressed : address path = .ok found) : found = .path := by
  unfold checkPath at valid
  split at valid
  · simp at valid
  split at valid
  · simp at valid
  rename_i noNul filled
  have visible : ¬path.toList.head? = some (Char.ofNat 0) := by
    intro hidden
    have there : Char.ofNat 0 ∈ path.toList := List.mem_of_mem_head? hidden
    exact noNul (by simpa [hasNul] using there)
  unfold address at addressed
  rw [if_neg filled, if_neg visible, if_neg noNul] at addressed
  split at addressed
  · simp at addressed
  · exact (Except.ok.inj addressed).symm

theorem bound_of_bind {bound : FileSystem} (addressed : address path = .ok .path)
    (binds : files.bind path listener = .ok bound) :
    ∃ directory name, files.Names path directory name ∧
      files.find? (directory ++ [name]) = none ∧
      bound = files.put ⟨directory ++ [name], .socket listener, files.permitted 0o777⟩ := by
  unfold FileSystem.bind at binds
  obtain ⟨found, same, binds⟩ := bind_eq_ok_iff.1 binds
  obtain rfl := Except.ok.inj (addressed.symm.trans same)
  obtain ⟨_, _, binds⟩ := bind_eq_ok_iff.1 binds
  obtain ⟨ending, resolved, binds⟩ := bind_eq_ok_iff.1 binds
  cases ending with
  | unnamed => simp at binds
  | named directory name =>
    cases there : files.find? (directory ++ [name]) with
    | some entry => simp [there] at binds
    | none =>
      simp only [there] at binds
      split at binds
      · simp at binds
      · rename_i noSlash
        have named := names_of_resolveEnding (by simpa using noSlash) resolved
        exact ⟨directory, name, named, there, (Except.ok.inj binds).symm⟩

theorem hasSocket_of_bind {bound : FileSystem} (addressed : address path = .ok .path)
    (binds : files.bind path listener = .ok bound) : bound.HasSocket path listener := by
  obtain ⟨directory, name, named, absent, rfl⟩ := bound_of_bind addressed binds
  have keeps := isDirectory_put files
    ⟨directory ++ [name], .socket listener, files.permitted 0o777⟩ (by simp [isDirectory, absent])
  exact ⟨addressed, directory, name, files.permitted 0o777, named.kept keeps rfl, by
    simp [find?_put]⟩

theorem HasSocket.setMode {restricted : FileSystem} {mode : Nat}
    (stands : files.HasSocket path listener) (sets : files.setMode path mode = .ok restricted) :
    restricted.HasSocket path listener := by
  obtain ⟨plain, directory, name, old, named, found⟩ := stands
  obtain ⟨entry, resolved, sets⟩ := bind_eq_ok_iff.1 sets
  rw [named.resolve, found] at resolved
  obtain rfl := Except.ok.inj resolved
  obtain rfl := Except.ok.inj sets
  have keeps := isDirectory_put files ⟨directory ++ [name], .socket listener, mode⟩
    (by simp [isDirectory, found])
  exact ⟨plain, directory, name, mode, named.kept keeps rfl, by simp [find?_put]⟩

theorem HasSocket.release (stands : files.HasSocket path listener) :
    (Binding.release files path).Vacant path := by
  obtain ⟨plain, directory, name, mode, named, found⟩ := stands
  have unlinked : Binding.release files path = files.remove (directory ++ [name]) := by
    simp [Binding.release, named.unlink, found, Except.toOption]
  have keeps := isDirectory_remove files (directory ++ [name]) (by simp [isDirectory, found])
  rw [unlinked]
  exact ⟨directory, name, named.kept keeps rfl, by simp [find?_remove]⟩

end FileSystem

namespace Binding

variable {files : FileSystem} {path : String} {listener : Nat}

-- Only an address of a plain path can be restricted to its owner.
theorem hasSocket_of_attach {bound : FileSystem}
    (attached : attach files path listener = (.ok (), bound)) : bound.HasSocket path listener := by
  unfold attach at attached
  split at attached
  · simp at attached
  · rename_i opened binds
    split at attached
    · rename_i restricted sets
      obtain rfl := (Prod.mk.inj attached).2
      obtain ⟨entry, resolved, _⟩ := bind_eq_ok_iff.1 sets
      obtain ⟨_, valid, _⟩ := bind_eq_ok_iff.1 resolved
      obtain ⟨found, addressed, _⟩ := bind_eq_ok_iff.1 binds
      obtain rfl := FileSystem.address_of_checkPath valid addressed
      exact (FileSystem.hasSocket_of_bind addressed binds).setMode sets
    · simp at attached

theorem hasSocket_of_perform (bound : (perform files path listener).result = .ok ()) :
    (perform files path listener).files.HasSocket path listener := by
  unfold perform at bound ⊢
  simp only at bound ⊢
  split at bound
  · simp at bound
  · split at bound
    · simp at bound
    · rename_i attached attaches
      exact hasSocket_of_attach attaches

theorem carryOut_of_isLog {effects : List Effect}
    (logs : ∀ effect ∈ effects, effect.isLog = true) : carryOut files effects = files := by
  rw [carryOut, Effect.removedFiles_of_isLog logs]
  rfl

end Binding

end SoleKey
