/-
**Paths that are refused.**

A document that is not there and one that cannot be read are failures. A path can be refused before
that: when the home directory at its beginning is not known, when it holds the character that no path
can hold, when a link on its way leads back to itself, and when a name on its way is too long to be
looked up or stands in a directory that may not be searched. Nothing else than these is a fault of
the host. Main statements:

* `World.resolvePath_eq_error`: why a path has no canonical path;
* `World.exists?_eq_error_iff`: when it cannot be said whether a path leads anywhere;
* `World.readDocument_eq_host_iff`: reading a document adds no fault of the host to that;
* `World.Refuses`: a path that is refused, and `World.Refuses.isOfPaths`: why it is.
-/

import PromptWeave.Storage.World

namespace PromptWeave

/-- The faults of the host that finding and reading a document can end with. -/
inductive HostFault.IsOfPaths : HostFault → Prop
  | homeless : IsOfPaths .homeless
  | nullCharacter : IsOfPaths .nullCharacter
  | linkLoop (path : Path) : IsOfPaths (.linkLoop path)
  | unexamined {obstacle : Obstacle} (isFault : obstacle.isFault = true) (path : Path) :
      IsOfPaths (.obstacle obstacle path)

namespace World

variable {world : World}

/-! ### Canonical paths -/

/-- Only a path that begins with `~` has a home directory that may not be known. -/
theorem expandHome_eq_error {path : Path} {fault : HostFault}
    (fails : world.expandHome path = .error fault) :
    (∃ first rest, path = ⟨.here, first :: rest⟩ ∧ first.toList.head? = some '~') ∧
      fault.IsOfPaths := by
  unfold expandHome at fails
  split at fails
  · rename_i first rest here parts
    have whole : path = ⟨.here, first :: rest⟩ := by
      rw [← here, ← parts]
    split at fails
    · rename_i user tilde
      have begins : first.toList.head? = some '~' := by
        rw [tilde]
        rfl
      split at fails
      · cases fails
        exact ⟨⟨first, rest, whole, begins⟩, .nullCharacter⟩
      · split at fails
        · cases fails
          exact ⟨⟨first, rest, whole, begins⟩, .homeless⟩
        · split at fails
          · cases fails
            exact ⟨⟨first, rest, whole, begins⟩, .homeless⟩
          · cases fails
    · cases fails
  · cases fails

theorem unlooped_eq_error {path : Path} {fault : HostFault}
    (fails : world.unlooped path = .error fault) : fault.IsOfPaths := by
  unfold unlooped at fails
  split at fails
  · cases fails
    exact .nullCharacter
  · split at fails
    · cases fails
      exact .linkLoop _
    · cases fails

theorem resolve_eq_error {path : Path} {fault : HostFault}
    (fails : world.resolve path = .error fault) : fault.IsOfPaths := by
  unfold World.resolve at fails
  split at fails
  · cases fails
    exact .nullCharacter
  · exact unlooped_eq_error fails
  · exact unlooped_eq_error fails

/-- Two steps give a canonical path, of which the first may fail, or the second. -/
theorem resolvePath_eq (base path : Path) :
    world.resolvePath base path =
      match world.expandHome path with
      | .error fault => .error fault
      | .ok target => world.resolve (base.join target) := by
  unfold resolvePath
  cases world.expandHome path <;> rfl

theorem resolveDirectory_eq (path : Path) :
    world.resolveDirectory path =
      match world.expandHome path with
      | .error fault => .error fault
      | .ok target => world.resolve target := by
  unfold resolveDirectory
  cases world.expandHome path <;> rfl

/-- **Why a path has no canonical path.** -/
theorem resolvePath_eq_error {base path : Path} {fault : HostFault}
    (fails : world.resolvePath base path = .error fault) : fault.IsOfPaths := by
  rw [resolvePath_eq] at fails
  split at fails
  · rename_i expands
    cases fails
    exact (expandHome_eq_error expands).2
  · exact resolve_eq_error fails

theorem resolveDirectory_eq_error {path : Path} {fault : HostFault}
    (fails : world.resolveDirectory path = .error fault) : fault.IsOfPaths := by
  rw [resolveDirectory_eq] at fails
  split at fails
  · rename_i expands
    cases fails
    exact (expandHome_eq_error expands).2
  · exact resolve_eq_error fails

/-! ### Documents -/

/-- **It cannot be said whether a path leads anywhere** when a name on its way is too long, or when a
directory on it may not be searched. -/
theorem exists?_eq_error_iff {path : Path} {fault : HostFault} :
    world.exists? path = .error fault ↔
      isUnspeakable path = false ∧ ∃ obstacle, world.lookUp path = .error obstacle ∧
        obstacle.isFault = true ∧ fault = .obstacle obstacle path := by
  unfold exists?
  split
  · rename_i unspeakable
    simp [unspeakable]
  · rename_i spoken
    rw [Bool.not_eq_true] at spoken
    split
    · rename_i found
      simp [found]
    · rename_i obstacle stuck
      simp only [spoken, stuck, Except.error.injEq, exists_eq_left', true_and]
      cases obstacle.isFault with
      | true => simp [eq_comm]
      | false => simp

/-- The faults of reading a file are failures of the document. -/
theorem readText_eq_error {path : Path} {fault : HostFault}
    (fails : world.readText path = .error fault) :
    (∃ flaw, fault = .undecodable flaw) ∨ fault = .isDirectory path ∨
      ∃ obstacle, fault = .obstacle obstacle path := by
  unfold readText at fails
  cases opened : world.readBytes path with
  | ok bytes =>
    rw [opened] at fails
    simp only [bind, Except.bind] at fails
    split at fails
    · cases fails
    · rename_i flaw _
      cases fails
      exact Or.inl ⟨flaw, rfl⟩
  | error cause =>
    rw [opened] at fails
    cases fails
    unfold readBytes at opened
    split at opened
    · split at opened
      · cases opened
      · cases opened
        exact Or.inr (Or.inr ⟨_, rfl⟩)
    · split at opened
      · cases opened
        exact Or.inr (Or.inl rfl)
      · cases opened
        exact Or.inr (Or.inr ⟨_, rfl⟩)
    · cases opened
      exact Or.inr (Or.inr ⟨_, rfl⟩)

/-- **A document is refused only when it cannot be said whether it is there.** -/
theorem readDocument_eq_host_iff {path : Path} {includedFrom : Option Path} {chain : List Path}
    {fault : HostFault} :
    world.readDocument path includedFrom chain = .error (.host fault) ↔
      world.exists? path = .error fault := by
  unfold readDocument
  cases known : world.exists? path with
  | error cause => simp
  | ok there =>
    cases there with
    | false => simp
    | true =>
      simp only [reduceCtorEq, iff_false]
      cases read : world.readText path with
      | ok text => simp
      | error cause =>
        rcases readText_eq_error read with ⟨flaw, rfl⟩ | rfl | ⟨obstacle, rfl⟩ <;> simp

/-- Work without end is no fault of reading. -/
theorem readDocument_ne_endless {path : Path} {includedFrom : Option Path} {chain : List Path} :
    world.readDocument path includedFrom chain ≠ .error .endless := by
  unfold readDocument
  split
  · simp
  · simp
  · split <;> simp

/-- A path is refused: it has no canonical path, or it cannot be said whether that leads anywhere. -/
inductive Refuses (world : World) (base path : Path) : HostFault → Prop
  | unresolved {fault : HostFault} (fails : world.resolvePath base path = .error fault) :
      Refuses world base path fault
  | unexamined {target : Path} {fault : HostFault} (found : world.resolvePath base path = .ok target)
      (fails : world.exists? target = .error fault) : Refuses world base path fault

/-- **Why a path is refused.** -/
theorem Refuses.isOfPaths {base path : Path} {fault : HostFault}
    (refused : world.Refuses base path fault) : fault.IsOfPaths := by
  cases refused with
  | unresolved fails => exact resolvePath_eq_error fails
  | unexamined found fails =>
    obtain ⟨_, _, _, isFault, rfl⟩ := exists?_eq_error_iff.mp fails
    exact .unexamined isFault _

end World

end PromptWeave
