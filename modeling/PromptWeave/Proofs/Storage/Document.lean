/-
**What finding and reading a document hangs on.**

The canonical path of a document hangs on directories and links alone, never on what is stored in
files or on which files there are. The text of a document hangs on the one file that its path leads
to. Main statements:

* `World.readDocument_eq_failure`: the failures that reading a document ends with;
* `FileSystem.resolve_eq`, `FileSystem.walk_eq`: links are resolved and followed alike in file
  systems with the same directories and links;
* `World.SameBeside.resolvePath_eq`: so are the paths of documents;
* `World.SameBeside.readDocument_eq`: a document reads alike where its file is the same.
-/

import PromptWeave.Storage.World

namespace PromptWeave

/-! ### Reading a document -/

namespace World

/-- A world with documents in the root directory, by name, and with nothing else. -/
def ofDocuments (documents : List (String × String)) : World where
  files := { entries := documents.map fun (name, text) =>
    ([name], .file (Utf8.encode text.toList) 0) }
  current := []
  environment := []

/-- A document that is read is a file that may be read. -/
theorem lookUp_of_readDocument {world : World} {path : Path} {includedFrom : Option Path}
    {chain : List Path} {text : Text}
    (read : world.readDocument path includedFrom chain = .ok text) :
    ∃ place content modified, world.lookUp path = .ok (place, .file content modified) ∧
      world.files.mayRead place = true := by
  have opened : ∃ text, world.readText path = .ok text := by
    unfold readDocument at read
    split at read
    · cases read
    · cases read
    · split at read
      · rename_i text opened
        exact ⟨text, opened⟩
      all_goals cases read
  obtain ⟨decoded, opened⟩ := opened
  unfold readText readBytes at opened
  split at opened
  · rename_i place content modified found
    cases readable : world.files.mayRead place with
    | true => exact ⟨place, content, modified, found, readable⟩
    | false =>
      rw [readable] at opened
      cases opened
  · split at opened <;> cases opened
  · cases opened

/-- Reading a document hangs on what its path leads to, and on whether that may be read. -/
theorem readDocument_congr {first second : World} {path : Path} {reached : Place × Entry}
    (found : first.lookUp path = .ok reached) (again : second.lookUp path = .ok reached)
    (readable : second.files.mayRead reached.1 = first.files.mayRead reached.1)
    (includedFrom : Option Path) (chain : List Path) :
    second.readDocument path includedFrom chain = first.readDocument path includedFrom chain := by
  obtain ⟨place, entry⟩ := reached
  have bytes : second.readBytes path = first.readBytes path := by
    unfold readBytes
    rw [found, again]
    cases entry <;> simp only [readable]
  simp only [readDocument, exists?, readText, bytes, found, again]

/-- **The failures of reading a document**: it is not there, or it is there and is no text. -/
theorem readDocument_eq_failure {world : World} {path : Path} {includedFrom : Option Path}
    {chain : List Path} {failure : Failure}
    (fails : world.readDocument path includedFrom chain = .error (.failure failure)) :
    failure = .notFound path includedFrom chain ∨
      ∃ place reason, failure = .unreadable place reason includedFrom := by
  unfold readDocument at fails
  split at fails
  · cases fails
  · cases fails
    exact Or.inl rfl
  · dsimp only at fails
    split at fails
    · cases fails
    · cases fails
      exact Or.inr ⟨_, _, rfl⟩
    · cases fails
      exact Or.inr ⟨_, _, rfl⟩
    · cases fails
      exact Or.inr ⟨_, _, rfl⟩
    · cases fails

end World

/-! ### Directories and links -/

namespace FileSystem

/-- Two file systems have the same directories, of which the same may be searched, and the same
links; of files nothing is said. -/
structure SameSkeleton (first second : FileSystem) : Prop where
  directory : ∀ place, second.stored? place = some .directory ↔
    first.stored? place = some .directory
  link : ∀ place, second.link? place = first.link? place
  search : ∀ place, second.maySearch place = first.maySearch place

theorem link?_eq_some_iff {files : FileSystem} {place : Place} {target : String} :
    files.link? place = some target ↔ files.stored? place = some (.link target) := by
  unfold link?
  split
  · rename_i other stored
    rw [stored]
    simp
  · rename_i other
    constructor
    · intro absent
      cases absent
    · intro stored
      exact absurd stored (other target)

namespace SameSkeleton

variable {first second : FileSystem}

theorem symm (same : SameSkeleton first second) : SameSkeleton second first :=
  ⟨fun place => (same.directory place).symm, fun place => (same.link place).symm,
    fun place => (same.search place).symm⟩

theorem stored?_link (same : SameSkeleton first second) {place : Place} {target : String}
    (stored : first.stored? place = some (.link target)) :
    second.stored? place = some (.link target) :=
  link?_eq_some_iff.mp ((same.link place).trans (link?_eq_some_iff.mpr stored))

theorem bars_eq (same : SameSkeleton first second) (directory : Place) (name : String) :
    second.bars directory name = first.bars directory name := by
  rw [bars, bars, same.search]

/-- The system finds the same links. -/
theorem readLink?_eq (same : SameSkeleton first second) (current : Place) (route : Route) :
    second.readLink? current route = first.readLink? current route := by
  unfold readLink?
  rw [funext same.search, same.link]

end SameSkeleton

section Names

variable {files : FileSystem} {current : Place} {active : List Route} {route : Route} {name : String}
  {rest : List String}

/-- One name on a way that is neither a dot nor two. -/
theorem resolve_name (plain : ¬ (name = "" ∨ name = ".")) (up : name ≠ "..")
    (spoken : ¬ name.toList.contains '\x00' = true) :
    files.resolve current active route (name :: rest) =
      match files.readLink? current (route.enter name) with
      | none => files.resolve current active (route.enter name) rest
      | some target =>
        if route.enter name ∈ active then
          .looped (beyond ((route.enter name).place current) rest)
        else match files.resolve current (route.enter name :: active) (route.along target)
            (pieces target) with
          | .settled inner => files.resolve current active inner rest
          | .looped names => .looped (beyond names rest)
          | .unspeakable => .unspeakable := by
  rw [resolve, if_neg plain, if_neg up, if_neg spoken]
  cases link : files.readLink? current (route.enter name) with
  | none => rfl
  | some target =>
    dsimp only
    split <;> rfl

end Names

/-- **Links are resolved alike** in file systems with the same directories and links. -/
theorem resolve_eq {first second : FileSystem} (same : SameSkeleton first second) (current : Place)
    (active : List Route) (route : Route) (rest : List String) :
    second.resolve current active route rest = first.resolve current active route rest := by
  fun_induction FileSystem.resolve first current active route rest with
  | case1 active route => rw [resolve]
  | case2 active route name rest plain ih => rw [resolve, if_pos plain, ih]
  | case3 active route rest plain ih => rw [resolve, if_neg plain, if_pos rfl, ih]
  | case4 active route name rest plain up null =>
    rw [resolve, if_neg plain, if_neg up, if_pos null]
  | case5 active route name rest plain up spoken absent ih =>
    rw [resolve_name plain up spoken, same.readLink?_eq, absent, ih]
  | case6 active route name rest plain up spoken target found known =>
    rw [resolve_name plain up spoken, same.readLink?_eq, found]
    exact if_pos known
  | case7 active route name rest plain up spoken target found fresh inner settled ihInner ihRest =>
    rw [resolve_name plain up spoken, same.readLink?_eq, found]
    dsimp only
    rw [if_neg fresh, ihInner, settled]
    exact ihRest
  | case8 active route name rest plain up spoken target found fresh names looped ih =>
    rw [resolve_name plain up spoken, same.readLink?_eq, found]
    dsimp only
    rw [if_neg fresh, ih, looped]
  | case9 active route name rest plain up spoken target found fresh unspeakable ih =>
    rw [resolve_name plain up spoken, same.readLink?_eq, found]
    dsimp only
    rw [if_neg fresh, ih, unspeakable]

/-- What a walk comes to that does not hang on other files: a link that leads back to itself, or a
file that is the same. -/
def Settled (files : FileSystem) : Except Obstacle (Place × Entry) → Prop
  | .error .loop => True
  | .ok (place, .file content modified) => files.stored? place = some (.file content modified)
  | _ => False

/-- **A walk comes to the same** in file systems with the same directories and links, if what it
comes to does not hang on other files. -/
theorem walk_eq {first second : FileSystem} (same : SameSkeleton first second) {links : Nat}
    {directory : Place} {names : List String}
    (settled : Settled second (first.walk links directory names)) :
    second.walk links directory names = first.walk links directory names := by
  fun_induction FileSystem.walk first links directory names with
  | case1 => cases settled
  | case2 => cases settled
  | case3 links directory name rest free plain ih =>
    rw [walk, same.bars_eq, if_neg free, if_pos plain, ih settled]
  | case4 links directory rest free plain ih =>
    rw [walk, same.bars_eq, if_neg free, if_neg plain, if_pos rfl, ih settled]
  | case5 => cases settled
  | case6 => cases settled
  | case7 links directory name rest free plain up short stored ih =>
    rw [walk, same.bars_eq, if_neg free, if_neg plain, if_neg up, if_neg short,
      (same.directory _).mpr stored]
    exact ih settled
  | case8 links directory name free plain up short content' modified' stored =>
    rw [walk, same.bars_eq, if_neg free, if_neg plain, if_neg up, if_neg short, settled]
    exact if_pos rfl
  | case9 => cases settled
  | case10 directory name rest free plain up short target stored =>
    rw [walk, same.bars_eq, if_neg free, if_neg plain, if_neg up, if_neg short,
      same.stored?_link stored]
  | case11 => cases settled
  | case12 directory name rest free plain up short target stored links spelled ih =>
    rw [walk, same.bars_eq, if_neg free, if_neg plain, if_neg up, if_neg short,
      same.stored?_link stored]
    simp only [if_neg spelled]
    exact ih settled

/-- Links lead back to themselves alike. -/
theorem walk_eq_loop {first second : FileSystem} (same : SameSkeleton first second) {links : Nat}
    {directory : Place} {names : List String}
    (looped : first.walk links directory names = .error .loop) :
    second.walk links directory names = .error .loop := by
  rw [← looped]
  exact walk_eq same (looped ▸ trivial)

theorem walk_eq_loop_iff {first second : FileSystem} (same : SameSkeleton first second)
    {links : Nat} {directory : Place} {names : List String} :
    second.walk links directory names = .error .loop ↔
      first.walk links directory names = .error .loop :=
  ⟨walk_eq_loop same.symm, walk_eq_loop same⟩

end FileSystem

/-! ### Two worlds -/

namespace World

/-- Two worlds with the same directories, links, environment and users, in which the files that these
paths lead to are the same as well. All other files may differ, be missing or be new. -/
structure SameBeside (first second : World) (kept : List Path) : Prop where
  current : second.current = first.current
  environment : second.environment = first.environment
  ownHome : second.ownHome = first.ownHome
  homes : second.homes = first.homes
  skeleton : first.files.SameSkeleton second.files
  files : ∀ path ∈ kept, ∀ place content modified,
    first.lookUp path = .ok (place, .file content modified) →
      second.files.stored? place = some (.file content modified) ∧
        second.files.mayRead place = first.files.mayRead place

/-- A path on whose way a link leads back to itself is refused. -/
theorem unlooped_of_loop {world : World} {path : Path} (spoken : ¬ isUnspeakable path = true)
    (loop : world.lookUp path = .error .loop) : world.unlooped path = .error (.linkLoop path) := by
  unfold unlooped
  rw [if_neg spoken]
  split
  · rfl
  · rename_i free
    exact absurd loop free

/-- Any other path stands as it is. -/
theorem unlooped_of_free {world : World} {path : Path} (spoken : ¬ isUnspeakable path = true)
    (free : world.lookUp path ≠ .error .loop) : world.unlooped path = .ok path := by
  unfold unlooped
  rw [if_neg spoken]
  split
  · rename_i loop
    exact absurd loop free
  · rfl

namespace SameBeside

variable {first second : World} {kept : List Path}

theorem expandHome_eq (same : SameBeside first second kept) (path : Path) :
    second.expandHome path = first.expandHome path := by
  have home (user : Text) : second.home? user = first.home? user := by
    simp only [home?, environment?, same.environment, same.ownHome, same.homes]
  simp only [expandHome, home]

/-- Whether links lead back to themselves on the way of a path. -/
theorem lookUp_eq_loop_iff (same : SameBeside first second kept) {path : Path} :
    second.lookUp path = .error .loop ↔ first.lookUp path = .error .loop := by
  unfold lookUp FileSystem.lookUp
  rw [same.current]
  split
  · rfl
  · exact FileSystem.walk_eq_loop_iff same.skeleton

/-- A path stands as it is in both worlds, or in neither. -/
theorem unlooped_eq (same : SameBeside first second kept) (path : Path) :
    second.unlooped path = first.unlooped path := by
  by_cases spoken : isUnspeakable path = true
  · simp only [unlooped, if_pos spoken]
  · by_cases loop : first.lookUp path = .error .loop
    · rw [unlooped_of_loop spoken loop, unlooped_of_loop spoken (same.lookUp_eq_loop_iff.mpr loop)]
    · rw [unlooped_of_free spoken loop,
        unlooped_of_free spoken (mt same.lookUp_eq_loop_iff.mp loop)]

/-- **A path is made canonical alike.** -/
theorem resolve_eq (same : SameBeside first second kept) (path : Path) :
    second.resolve path = first.resolve path := by
  unfold World.resolve FileSystem.canonical
  simp only [same.current, FileSystem.resolve_eq same.skeleton, same.unlooped_eq]

/-- **The path of a document is the same.** -/
theorem resolvePath_eq (same : SameBeside first second kept) (base path : Path) :
    second.resolvePath base path = first.resolvePath base path := by
  simp only [resolvePath, same.expandHome_eq, same.resolve_eq]

theorem resolveDirectory_eq (same : SameBeside first second kept) (path : Path) :
    second.resolveDirectory path = first.resolveDirectory path := by
  simp only [resolveDirectory, same.expandHome_eq, same.resolve_eq]

theorem resolveBase_eq (same : SameBeside first second kept) (spelling : String)
    (given configured : Option Path) :
    second.resolveBase spelling given configured = first.resolveBase spelling given configured := by
  simp only [resolveBase, same.expandHome_eq, same.resolve_eq, same.resolveDirectory_eq]

/-- **A document reads alike where its file is the same.** -/
theorem readDocument_eq (same : SameBeside first second kept) {path : Path} (inside : path ∈ kept)
    {includedFrom : Option Path} {chain : List Path} {text : Text}
    (read : first.readDocument path includedFrom chain = .ok text) :
    second.readDocument path includedFrom chain = .ok text := by
  obtain ⟨place, content, modified, found, _⟩ := lookUp_of_readDocument read
  obtain ⟨stored, readable⟩ := same.files path inside place content modified found
  have again : second.lookUp path = .ok (place, .file content modified) := by
    unfold lookUp FileSystem.lookUp at found ⊢
    rw [same.current]
    split at found
    · cases found
    · rename_i short
      rw [if_neg short, ← found]
      exact FileSystem.walk_eq same.skeleton (found ▸ stored)
  rw [readDocument_congr found again readable]
  exact read

end SameBeside

/-! ### Worlds of documents -/

/-- In a world of documents there is nothing but files below the root directory. -/
theorem stored?_ofDocuments (documents : List (String × String)) {place : Place}
    (deep : place ≠ []) : (ofDocuments documents).files.stored? place = none ∨
      ∃ content, (ofDocuments documents).files.stored? place = some (.file content 0) := by
  obtain ⟨name, rest, rfl⟩ := List.exists_cons_of_ne_nil deep
  unfold FileSystem.stored? ofDocuments
  rw [List.find?_map]
  cases documents.find? _ with
  | none => exact Or.inl rfl
  | some document => exact Or.inr ⟨_, rfl⟩

/-- Worlds of documents have the same directories and links. -/
theorem sameSkeleton_ofDocuments (first second : List (String × String)) :
    (ofDocuments first).files.SameSkeleton (ofDocuments second).files := by
  constructor
  · intro place
    by_cases deep : place = []
    · subst deep
      exact Iff.rfl
    · rcases stored?_ofDocuments first deep with absent | ⟨_, absent⟩
        <;> rcases stored?_ofDocuments second deep with other | ⟨_, other⟩
        <;> simp [absent, other]
  · intro place
    by_cases deep : place = []
    · subst deep
      rfl
    · unfold FileSystem.link?
      rcases stored?_ofDocuments first deep with absent | ⟨_, absent⟩
        <;> rcases stored?_ofDocuments second deep with other | ⟨_, other⟩
        <;> rw [absent, other]
  · exact fun _ => rfl

end World

end PromptWeave
