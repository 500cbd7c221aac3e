/-
**One path for each file.**

A look-up passes through links and two dots and ends at a place that is reached from the root through
directories alone. The canonical path of whatever was looked up is the path of that place: it has no links
and no dots left, leads there itself and is its own canonical path. So two spellings lead to one file
exactly if they have one canonical path. A place deeper than a spelling may be long has a path all the
same, but none that can be looked up, and a link that is met so deep stays in the way. Main statements:

* `FileSystem.Holds`: places that are reached through directories alone;
* `FileSystem.holds_of_walk`: a look-up ends at such a place;
* `FileSystem.Leads.exists_settled`: resolving the links on its way leads there too;
* `World.Arrives`: a path that is looked up, with links that are found;
* `World.resolvePath_identity`: every file has one canonical path;
* `World.resolvePath_deep`: the files of a world that is too deep for that.
-/

import Mathlib
import PromptWeave.Proofs.Storage.Canonical

namespace PromptWeave

open Text

namespace FileSystem

variable {files : FileSystem} {place : Place} {entry : Entry}

/-! ### Places without links -/

/-- A name that leads from a directory to what is stored in it. -/
def IsPlain (name : String) : Prop := name ≠ "" ∧ name ≠ "." ∧ name ≠ ".."

/-- A place is reached from the root through directories alone, all of which may be searched, and this is
what it holds. Links are passed through and held nowhere. -/
inductive Holds (files : FileSystem) : Place → Entry → Prop
  | root : Holds files [] .directory
  | inside {place : Place} {name : String} {entry : Entry} (above : Holds files place .directory)
      (search : files.maySearch place = true) (plain : IsPlain name) (fits : ¬ nameLimit < name.utf8ByteSize)
      (stored : files.stored? (place ++ [name]) = some entry)
      (own : ∀ target, entry ≠ .link target) : Holds files (place ++ [name]) entry

theorem Holds.isPlain (holds : files.Holds place entry) : ∀ name ∈ place, IsPlain name := by
  induction holds with
  | root => simp
  | inside _ _ plain _ _ _ ih =>
    intro name listed
    rcases List.mem_append.mp listed with listed | listed
    · exact ih name listed
    · rwa [List.mem_singleton.mp listed]

/-- What holds anything lies in directories. -/
theorem Holds.dropLast (holds : files.Holds place .directory) : files.Holds place.dropLast .directory := by
  cases holds with
  | root => exact .root
  | inside above => rwa [List.dropLast_concat]

/-- **No link leads on to a place that is held.** -/
theorem Holds.link?_eq_none (holds : files.Holds place entry) {start : Place} (before : start <+: place) :
    files.link? start = none := by
  induction holds with
  | root =>
    rw [List.prefix_nil.mp before]
    rfl
  | inside _ _ _ _ stored own ih =>
    rcases List.prefix_concat_iff.mp before with rfl | before
    · unfold link?
      rw [stored]
      split
      · rename_i target same
        cases same
        exact absurd rfl (own target)
      · rfl
    · exact ih before

/-! ### Look-ups -/

/-- A directory that is held is entered from the root without a link. -/
theorem Holds.walk_append (holds : files.Holds place .directory) (links : Nat) (rest : List String) :
    files.walk links [] (place ++ rest) = files.walk links place rest := by
  generalize same : Entry.directory = entry at holds
  induction holds generalizing rest with
  | root => rfl
  | inside _ search plain fits stored _ ih =>
    subst same
    rw [List.append_assoc, ih _ rfl, List.singleton_append, walk, if_neg (not_bars_of_maySearch search _),
      if_neg (not_or.mpr ⟨plain.1, plain.2.1⟩), if_neg plain.2.2, if_neg fits, stored]

/-- **A place that is held is found by its names.** -/
theorem Holds.walk (holds : files.Holds place entry) (links : Nat) :
    files.walk links [] place = .ok (place, entry) := by
  cases holds with
  | root => rw [FileSystem.walk]
  | inside above search plain fits stored own =>
    rw [above.walk_append, FileSystem.walk, if_neg (not_bars_of_maySearch search _),
      if_neg (not_or.mpr ⟨plain.1, plain.2.1⟩), if_neg plain.2.2, if_neg fits, stored]
    cases entry with
    | file content modified => exact if_pos rfl
    | link target => exact absurd rfl (own target)
    | directory =>
      dsimp only
      rw [FileSystem.walk]

/-- Below the root no link is followed to a directory that is held. -/
theorem Holds.followed_append (holds : files.Holds place .directory) (current : Place) (links : Nat)
    (rest : List String) : files.followed current links ⟨none, []⟩ (place ++ rest) =
      files.followed current links ⟨none, place⟩ rest := by
  generalize same : Entry.directory = entry at holds
  induction holds generalizing rest with
  | root => rfl
  | @inside before name _ above search plain fits stored own ih =>
    subst same
    have unlinked : files.link? ((Route.enter ⟨none, before⟩ name).place current) = none :=
      (Holds.inside above search plain fits stored own).link?_eq_none (List.prefix_refl _)
    rw [List.append_assoc, ih _ rfl, List.singleton_append, followed,
      if_neg (not_or.mpr ⟨plain.1, plain.2.1⟩), if_neg plain.2.2, unlinked]
    rfl

/-- **No link is followed to a place that is held** when it is looked up by its names. -/
theorem Holds.followed_eq_nil (holds : files.Holds place entry) (current : Place) (links : Nat) :
    files.followed current links ⟨none, []⟩ place = [] := by
  have unlinked := holds.link?_eq_none (List.prefix_refl place)
  cases holds with
  | root => rw [followed]
  | @inside before name _ above search plain fits stored own =>
    have none : files.link? ((Route.enter ⟨none, before⟩ name).place current) = none := unlinked
    rw [above.followed_append, followed, if_neg (not_or.mpr ⟨plain.1, plain.2.1⟩), if_neg plain.2.2, none]
    dsimp only
    rw [followed]

/-- **A look-up ends at a place that is held**, if it begins at one. -/
theorem holds_of_walk {links : Nat} {names : List String} {final : Place}
    (holds : files.Holds place .directory) (walked : files.walk links place names = .ok (final, entry)) :
    files.Holds final entry := by
  fun_induction FileSystem.walk files links place names with
  | case1 =>
    cases walked
    exact holds
  | case2 => cases walked
  | case3 links place name rest free dot ih => exact ih holds walked
  | case4 links place rest free dot ih => exact ih holds.dropLast walked
  | case5 => cases walked
  | case6 => cases walked
  | case7 links place name rest free dot up fits stored ih =>
    obtain ⟨named, single⟩ := not_or.mp dot
    exact ih (.inside holds (maySearch_of_not_bars named free) ⟨named, single, up⟩ fits stored
      fun _ => Entry.noConfusion) walked
  | case8 links place name free dot up fits content modified stored =>
    cases walked
    obtain ⟨named, single⟩ := not_or.mp dot
    exact .inside holds (maySearch_of_not_bars named free) ⟨named, single, up⟩ fits stored
      fun _ => Entry.noConfusion
  | case9 => cases walked
  | case10 => cases walked
  | case11 => cases walked
  | case12 place name rest free dot up fits target stored links spelled ih =>
    refine ih ?_ walked
    unfold startOf
    split
    · exact .root
    · exact holds

/-! ### Resolved links -/

/-- No name that is stored holds the null character. -/
def Speakable (files : FileSystem) : Prop :=
  ∀ place name, files.stored? (place ++ [name]) ≠ none → name.toList.contains '\x00' = false

/-- What is stored below the root is an entry. -/
theorem exists_entry_of_stored? (deep : place ≠ []) (stored : files.stored? place ≠ none) :
    ∃ pair ∈ files.entries, pair.1 = place := by
  unfold stored? at stored
  split at stored
  · exact absurd rfl deep
  · rw [Ne, Option.map_eq_none_iff] at stored
    obtain ⟨pair, found⟩ := Option.ne_none_iff_exists'.mp stored
    have same := List.find?_some found
    exact ⟨pair, List.mem_of_find?_eq_some found, of_decide_eq_true same⟩

/-- Whether every name can be spoken is seen from the entries. -/
theorem speakable_of_entries
    (spoken : ∀ pair ∈ files.entries, ∀ name ∈ pair.1, name.toList.contains '\x00' = false) :
    files.Speakable := by
  intro place name stored
  obtain ⟨pair, listed, same⟩ := exists_entry_of_stored?
    (List.append_ne_nil_of_right_ne_nil _ (List.cons_ne_nil _ _)) stored
  exact spoken pair listed name (same ▸ List.mem_append_right _ (List.mem_singleton_self name))

/-- The names of a place that is held can be spoken. -/
theorem Holds.spoken (speakable : files.Speakable) (holds : files.Holds place entry) :
    ∀ name ∈ place, name.toList.contains '\x00' = false := by
  induction holds with
  | root => simp
  | @inside before last entry _ _ _ _ stored _ ih =>
    intro name listed
    rcases List.mem_append.mp listed with listed | listed
    · exact ih name listed
    · rw [List.mem_singleton.mp listed]
      exact speakable before last (by simp [stored])

/-- What the system takes for no link stays in the way. -/
theorem resolve_of_readLink?_none {current : Place} {active : List Route} {route : Route} {name : String}
    (plain : IsPlain name) (spoken : name.toList.contains '\x00' = false)
    (absent : files.readLink? current (route.enter name) = none) (rest : List String) :
    files.resolve current active route (name :: rest) =
      files.resolve current active (route.enter name) rest := by
  rw [resolve, if_neg (not_or.mpr ⟨plain.1, plain.2.1⟩), if_neg plain.2.2, if_neg (Bool.eq_false_iff.mp spoken)]
  split
  · rfl
  · rename_i found
    cases absent.symm.trans found

/-- Below the root no link is resolved on the way to a directory that is held. -/
theorem Holds.resolve_append (speakable : files.Speakable) (holds : files.Holds place .directory)
    (current : Place) (active : List Route) (rest : List String) :
    files.resolve current active ⟨none, []⟩ (place ++ rest) =
      files.resolve current active ⟨none, place⟩ rest := by
  generalize same : Entry.directory = entry at holds
  induction holds generalizing rest with
  | root => rfl
  | @inside before name _ above search plain fits stored own ih =>
    subst same
    have held := Holds.inside above search plain fits stored own
    have absent : files.readLink? current (Route.enter ⟨none, before⟩ name) = none := by
      refine Option.eq_none_iff_forall_ne_some.mpr fun target found => ?_
      cases (held.link?_eq_none (List.prefix_refl _)).symm.trans (link?_of_readLink? found)
    rw [List.append_assoc, ih _ rfl, List.singleton_append,
      resolve_of_readLink?_none plain (held.spoken speakable name (by simp)) absent]
    rfl

namespace Leads

variable {current : Place} {links : Nat} {route : Route} {active : List Route}

/-- A name with the null character is met on no way that leads somewhere. -/
theorem not_unspeakable (speakable : files.Speakable) {names tail : List String} {reached : Place × Entry}
    (leads : files.Leads current links route (names ++ tail) reached) :
    files.resolve current active route names ≠ .unspeakable := by
  intro unspeakable
  fun_induction FileSystem.resolve files current active route names generalizing links tail with
  | case1 => cases unspeakable
  | case2 active route name rest dot ih => exact ih (leads.dot dot) unspeakable
  | case3 active route rest dot ih => exact ih leads.up unspeakable
  | case4 active route name rest dot up null =>
    have stored : files.stored? (route.place current ++ [name]) ≠ none := by
      rcases walk_name_ok dot up leads.walked with
          ⟨stored, _⟩ | ⟨_, _, _, stored, _⟩ | ⟨_, _, stored, _⟩
        <;> simp [stored]
    rw [speakable _ name stored] at null
    cases null
  | case5 active route name rest dot up spoken absent ih =>
    rcases leads.unlinked dot up absent with further | ⟨last, _⟩
    · exact ih further unspeakable
    · obtain ⟨rfl, rfl⟩ := List.append_eq_nil_iff.mp last
      rw [FileSystem.resolve] at unspeakable
      cases unspeakable
  | case6 => cases unspeakable
  | case7 active route name rest dot up spoken target found fresh inner settled _ ihRest =>
    obtain ⟨left, rfl, further⟩ := leads.link dot up found
    rcases further.of_settled settled with ⟨more, _, inside⟩ | ⟨last, _⟩
    · exact ihRest inside unspeakable
    · obtain ⟨rfl, rfl⟩ := List.append_eq_nil_iff.mp last
      rw [FileSystem.resolve] at unspeakable
      cases unspeakable
  | case8 => cases unspeakable
  | case9 active route name rest dot up spoken target found fresh inner ih =>
    obtain ⟨left, rfl, further⟩ := leads.link dot up found
    exact ih further ‹_›

/-- **Resolving the links on the way of a look-up leads to where the look-up ends.** -/
theorem exists_settled (speakable : files.Speakable) {names : List String} {final : Place}
    (leads : files.Leads current links route names (final, entry)) :
    ∃ last, files.resolve current [] route names = .settled last ∧ last.place current = final := by
  have whole : files.Leads current links route (names ++ []) (final, entry) := by rwa [List.append_nil]
  cases resolution : files.resolve current [] route names with
  | settled last =>
    refine ⟨last, rfl, ?_⟩
    rcases whole.of_settled resolution with ⟨left, _, further⟩ | ⟨_, ends⟩
    · have walked := further.walked
      rw [FileSystem.walk] at walked
      cases walked
      rfl
    · exact ends.symm
  | looped beyond => exact absurd resolution (whole.not_looped beyond)
  | unspeakable => exact absurd resolution (whole.not_unspeakable speakable)

end Leads

end FileSystem

namespace World

variable {world : World} {place : Place} {entry : Entry}

/-! ### Canonical paths -/

/-- **A path that is looked up**, from the root or from a directory that is held, and leads to a place. Each
link on its way is met under a spelling that is not too long for the system to find it. -/
structure Arrives (world : World) (path : Path) (place : Place) (entry : Entry) : Prop where
  begins : world.files.Holds ((Route.beginning path).place world.current) .directory
  short : ∀ link ∈ world.files.followed world.current FileSystem.linkLimit (Route.beginning path) path.parts,
    ¬ FileSystem.spellingLimit < link.path.text.utf8ByteSize
  found : world.lookUp path = .ok (place, entry)

theorem place_beginning (current : Place) (path : Path) :
    (Route.beginning path).place current = if path.isAbsolute then [] else current := by
  unfold Route.beginning Route.place
  split
  · rfl
  · exact (List.append_nil _).trans (List.take_length ..)

namespace Arrives

variable {path : Path}

/-- A look-up is a walk. -/
theorem walked (arrives : world.Arrives path place entry) :
    world.files.walk FileSystem.linkLimit ((Route.beginning path).place world.current) path.parts =
      .ok (place, entry) := by
  have found := arrives.found
  unfold lookUp FileSystem.lookUp at found
  split at found
  · cases found
  · rwa [place_beginning]

/-- **What a path leads to is held by its place.** -/
theorem holds (arrives : world.Arrives path place entry) : world.files.Holds place entry :=
  FileSystem.holds_of_walk arrives.begins arrives.walked

theorem leads (arrives : world.Arrives path place entry) :
    world.files.Leads world.current FileSystem.linkLimit (Route.beginning path) path.parts (place, entry) where
  search := by
    unfold Route.beginning
    split <;> simp [Route.ways]
  short := arrives.short
  walked := arrives.walked

end Arrives

/-- The path of a place that is held stands as it is. -/
theorem unlooped_pathOf (speakable : world.files.Speakable) (holds : world.files.Holds place entry) :
    world.unlooped (pathOf place) = .ok (pathOf place) := by
  refine unlooped_of_free ?_ ?_
  · rw [Bool.not_eq_true, isUnspeakable, List.any_eq_false]
    intro name listed
    rw [holds.spoken speakable name listed]
    exact Bool.false_ne_true
  · unfold lookUp FileSystem.lookUp
    split
    · exact fun same => by cases same
    · intro same
      cases (holds.walk FileSystem.linkLimit).symm.trans same

/-- **The canonical path of a path that leads somewhere** is that of the place. -/
theorem Arrives.resolve (speakable : world.files.Speakable) {path : Path}
    (arrives : world.Arrives path place entry) : world.resolve path = .ok (pathOf place) := by
  obtain ⟨last, settled, rfl⟩ := arrives.leads.exists_settled speakable
  unfold World.resolve FileSystem.canonical
  rw [settled]
  exact unlooped_pathOf speakable arrives.holds

theorem Arrives.resolvePath (speakable : world.files.Speakable) {base path target : Path}
    (expanded : world.expandHome path = .ok target) (arrives : world.Arrives (base.join target) place entry) :
    world.resolvePath base path = .ok (pathOf place) := by
  rw [resolvePath_eq, expanded]
  exact arrives.resolve speakable

/-- **A directory that is there has a canonical path**, that of its place. -/
theorem Arrives.resolveDirectory (speakable : world.files.Speakable) {path target : Path}
    (expanded : world.expandHome path = .ok target) (arrives : world.Arrives target place .directory) :
    world.resolveDirectory path = .ok (pathOf place) := by
  rw [resolveDirectory_eq, expanded]
  exact arrives.resolve speakable

/-- **What is held is looked up by the path of its place**, if that is not too long. -/
theorem arrives_pathOf (holds : world.files.Holds place entry)
    (fits : ¬ FileSystem.spellingLimit < (pathOf place).text.utf8ByteSize) :
    world.Arrives (pathOf place) place entry where
  begins := .root
  short := by
    intro link inside
    change link ∈ world.files.followed world.current FileSystem.linkLimit ⟨none, []⟩ place at inside
    rw [holds.followed_eq_nil] at inside
    cases inside
  found := by
    unfold lookUp FileSystem.lookUp
    rw [if_neg fits]
    exact holds.walk _

/-- **Every file has one canonical path.** The path of a document that leads to a file, however it is
spelled, is absolute, without empty names and dots, and without links on its way; it leads to the same file
and stays as it is from every directory on. Two spellings lead to the same file exactly if they have the
same path. -/
theorem resolvePath_identity (speakable : world.files.Speakable) {base path target : Path} {place : Place}
    {content : List UInt8} {modified : Int} (expanded : world.expandHome path = .ok target)
    (arrives : world.Arrives (base.join target) place (.file content modified))
    (fits : ¬ FileSystem.spellingLimit < (pathOf place).text.utf8ByteSize) :
    ∃ identity, world.resolvePath base path = .ok identity ∧
      identity.isAbsolute = true ∧
      (∀ name ∈ identity.parts, FileSystem.IsPlain name) ∧
      (∀ start, start <+: identity.parts → world.files.link? start = none) ∧
      world.lookUp identity = .ok (place, .file content modified) ∧
      (∀ other, world.resolvePath other identity = .ok identity) ∧
      ∀ base' path' target' place' content' modified', world.expandHome path' = .ok target' →
        world.Arrives (base'.join target') place' (.file content' modified') →
        (place' = place ↔ world.resolvePath base' path' = .ok identity) := by
  have holds := arrives.holds
  have again := arrives_pathOf holds fits
  refine ⟨pathOf place, arrives.resolvePath speakable expanded, rfl, holds.isPlain,
    fun start before => holds.link?_eq_none before, again.found, fun other => ?_, ?_⟩
  · have joined : world.Arrives (other.join (pathOf place)) place (.file content modified) := by
      rwa [Path.join_of_isAbsolute rfl]
    exact joined.resolvePath speakable (expandHome_of_isAbsolute rfl)
  intro base' path' target' place' content' modified' expanded' arrives'
  rw [arrives'.resolvePath speakable expanded']
  constructor
  · rintro rfl
    rfl
  · intro same
    cases same
    rfl

/-- The home directory of a user takes the place of a first name `~user`. -/
theorem expandHome_of_home? {first home : String} {user : Text} (rest : List String)
    (spelled : first.toList = '~' :: user) (spoken : user.contains '\x00' = false)
    (known : world.home? user = some home) (named : (homeSpelling home).toList.head? ≠ some '~') :
    world.expandHome ⟨.here, first :: rest⟩ =
      .ok ⟨(Path.parse (homeSpelling home)).anchor, (Path.parse (homeSpelling home)).parts ++ rest⟩ := by
  unfold expandHome
  simp only [spelled, spoken, known, named, Bool.false_eq_true, if_false]

/-- A link to a directory, and one that goes through it and up again to a file. -/
def linkedWorld : World where
  files :=
    { entries := [(["d"], .directory), (["d", "e"], .directory), (["d", "f"], .file [120] 0),
        (["l"], .link "d/e"), (["m"], .link "/l/../f")] }
  current := []
  environment := []
  homes := [("guest", "/d")]

/-- Three spellings that go through links or from the home directory of a user lead to one file and have one
path. -/
theorem resolvePath_identity_linked :
    linkedWorld.lookUp ((⟨.root, []⟩ : Path).join ⟨.here, ["m"]⟩) = .ok (["d", "f"], .file [120] 0) ∧
      linkedWorld.lookUp ((⟨.root, ["d"]⟩ : Path).join ⟨.here, ["..", "l", "..", "f"]⟩) =
        .ok (["d", "f"], .file [120] 0) ∧
      ∃ identity, linkedWorld.resolvePath ⟨.root, []⟩ ⟨.here, ["m"]⟩ = .ok identity ∧
        linkedWorld.resolvePath ⟨.root, ["d"]⟩ ⟨.here, ["..", "l", "..", "f"]⟩ = .ok identity ∧
        linkedWorld.resolvePath ⟨.root, []⟩ ⟨.here, ["~guest", "f"]⟩ = .ok identity := by
  have speakable : linkedWorld.files.Speakable := FileSystem.speakable_of_entries (by decide +kernel)
  have met : linkedWorld.files.followed [] 40 ⟨none, []⟩ ["m"] = [⟨none, ["m"]⟩, ⟨none, ["l"]⟩] := by cbv
  have metAgain : linkedWorld.files.followed [] 40 ⟨none, []⟩ ["d", "..", "l", "..", "f"] =
      [⟨none, ["l"]⟩] := by cbv
  have first : linkedWorld.Arrives ((⟨.root, []⟩ : Path).join ⟨.here, ["m"]⟩) ["d", "f"] (.file [120] 0) := by
    refine ⟨.root, ?_, by cbv⟩
    change ∀ link ∈ linkedWorld.files.followed [] 40 ⟨none, []⟩ ["m"], _
    rw [met]
    decide +kernel
  have second : linkedWorld.Arrives ((⟨.root, ["d"]⟩ : Path).join ⟨.here, ["..", "l", "..", "f"]⟩)
      ["d", "f"] (.file [120] 0) := by
    refine ⟨.root, ?_, by cbv⟩
    change ∀ link ∈ linkedWorld.files.followed [] 40 ⟨none, []⟩ ["d", "..", "l", "..", "f"], _
    rw [metAgain]
    decide +kernel
  have third : linkedWorld.Arrives ((⟨.root, []⟩ : Path).join ⟨.root, ["d", "f"]⟩)
      ["d", "f"] (.file [120] 0) :=
    arrives_pathOf second.holds (by decide +kernel)
  have expanded : linkedWorld.expandHome ⟨.here, ["m"]⟩ = .ok ⟨.here, ["m"]⟩ := by cbv
  have expandedAgain : linkedWorld.expandHome ⟨.here, ["..", "l", "..", "f"]⟩ =
      .ok ⟨.here, ["..", "l", "..", "f"]⟩ := by cbv
  have expandedHome : linkedWorld.expandHome ⟨.here, ["~guest", "f"]⟩ = .ok ⟨.root, ["d", "f"]⟩ := by
    have start : Path.parse (homeSpelling "/d") = ⟨.root, ["d"]⟩ := by decide +kernel
    have known : linkedWorld.home? ['g', 'u', 'e', 's', 't'] = some "/d" := by decide +kernel
    rw [expandHome_of_home? ["f"] (by decide +kernel) (by decide) known (by decide +kernel), start]
    rfl
  obtain ⟨identity, resolved, _, _, _, _, _, same⟩ :=
    resolvePath_identity speakable expanded first (by decide +kernel)
  exact ⟨first.found, second.found, identity, resolved, (same _ _ _ _ _ _ expandedAgain second).mp rfl,
    (same _ _ _ _ _ _ expandedHome third).mp rfl⟩

/-! ### Places deeper than a spelling is long -/

/-- A name as long as a name may be. -/
def longName : String := String.ofList (List.replicate 255 'a')

/-- The place so many directories of that name deep. -/
def deepPlace (depth : Nat) : Place := List.replicate depth longName

/-- The spelling of the place fifteen directories deep. -/
def deepSpelling : String := String.ofList (joinWith ['/'] (List.replicate 15 (List.replicate 255 'a')))

/-- A file and a link sixteen such directories deep, and a link that leads fifteen of them down. The deep link
leads back to a file below the root. -/
def deepWorld : World where
  files :=
    { entries := (["l"], .link deepSpelling) :: (["m"], .file [121] 0) ::
        (deepPlace 16 ++ ["f"], .file [120] 0) :: (deepPlace 16 ++ ["k"], .link "/m") ::
          (List.range 16).map fun depth => (deepPlace (depth + 1), .directory) }
  current := []
  environment := []

theorem longName_isPlain : FileSystem.IsPlain longName ∧ ¬ FileSystem.nameLimit < longName.utf8ByteSize := by
  unfold FileSystem.IsPlain
  decide +kernel

/-- What is short enough to be looked up. -/
theorem deepWorld_short : ∀ names ∈ [["l"], ["m"], ["l", longName, "f"], ["l", longName, "k"]],
    ¬ FileSystem.spellingLimit < (Path.text ⟨.root, names⟩).utf8ByteSize := by
  decide +kernel

/-- What is too long. -/
theorem deepWorld_long : ∀ name ∈ ["f", "k"],
    FileSystem.spellingLimit < (pathOf (deepPlace 16 ++ [name])).text.utf8ByteSize := by
  decide +kernel

theorem deepPlace_spoken {depth : Nat} {name : String} (inside : name ∈ deepPlace depth) :
    name.toList.contains '\x00' = false := by
  rw [List.eq_of_mem_replicate inside]
  exact (congrArg (List.contains · '\x00') String.toList_ofList).trans (by decide +kernel)

theorem deepPlace_concat_spoken {depth : Nat} {last : String} (spoken : last.toList.contains '\x00' = false) :
    ∀ name ∈ deepPlace depth ++ [last], name.toList.contains '\x00' = false := by
  intro name inside
  rcases List.mem_append.mp inside with deep | inside
  · exact deepPlace_spoken deep
  · rwa [List.mem_singleton.mp inside]

theorem deepWorld_speakable : deepWorld.files.Speakable := by
  refine FileSystem.speakable_of_entries fun pair listed => ?_
  simp only [deepWorld, List.mem_cons, List.mem_map] at listed
  rcases listed with rfl | rfl | rfl | rfl | ⟨depth, _, rfl⟩
  · exact List.forall_mem_singleton.mpr (by decide)
  · exact List.forall_mem_singleton.mpr (by decide)
  · exact deepPlace_concat_spoken (by decide)
  · exact deepPlace_concat_spoken (by decide)
  · exact fun name => deepPlace_spoken

theorem deepWorld_stores :
    (∀ depth < 16, deepWorld.files.stored? (deepPlace (depth + 1)) = some .directory) ∧
      deepWorld.files.stored? ["m"] = some (.file [121] 0) ∧
      deepWorld.files.stored? (deepPlace 16 ++ ["f"]) = some (.file [120] 0) ∧
      deepWorld.files.stored? (deepPlace 16 ++ ["k"]) = some (.link "/m") := by
  decide +kernel

theorem deepWorld_holds {depth : Nat} (inside : depth ≤ 16) :
    deepWorld.files.Holds (deepPlace depth) .directory := by
  induction depth with
  | zero => exact .root
  | succ depth ih =>
    have split : deepPlace (depth + 1) = deepPlace depth ++ [longName] := List.replicate_succ'
    have stored := deepWorld_stores.1 depth inside
    rw [split] at stored ⊢
    exact .inside (ih (Nat.le_of_succ_le inside)) rfl longName_isPlain.1 longName_isPlain.2 stored
      fun _ => Entry.noConfusion

theorem deepWorld_holds_file : deepWorld.files.Holds (deepPlace 16 ++ ["f"]) (.file [120] 0) :=
  .inside (deepWorld_holds (Nat.le_refl _)) rfl ⟨by decide, by decide, by decide⟩ (by decide)
    deepWorld_stores.2.2.1 fun _ => Entry.noConfusion

theorem deepWorld_holds_shallow : deepWorld.files.Holds ["m"] (.file [121] 0) :=
  .inside .root rfl ⟨by decide, by decide, by decide⟩ (by decide) deepWorld_stores.2.1
    fun _ => Entry.noConfusion

theorem pieces_deepSpelling : FileSystem.pieces deepSpelling = deepPlace 15 := by
  have cut : splitOn '/' (joinWith ['/'] (List.replicate 15 (List.replicate 255 'a'))) =
      List.replicate 15 (List.replicate 255 'a') := by
    refine splitOn_joinWith (List.cons_ne_nil _ _) fun piece inside slash => ?_
    rw [List.eq_of_mem_replicate inside] at slash
    exact absurd (List.eq_of_mem_replicate slash) (by decide)
  rw [FileSystem.pieces, deepSpelling, String.toList_ofList, cut, List.map_replicate]
  rfl

theorem stored?_deepWorld_link : deepWorld.files.stored? ["l"] = some (.link deepSpelling) := rfl

theorem along_deepSpelling : Route.along ⟨none, []⟩ deepSpelling = ⟨none, []⟩ := ite_self _

theorem lookUp_tooLong {name : String} (deep : name ∈ ["f", "k"]) :
    deepWorld.lookUp (pathOf (deepPlace 16 ++ [name])) = .error .tooLong := by
  unfold lookUp FileSystem.lookUp
  exact if_pos (deepWorld_long name deep)

/-- Through the link a look-up comes sixteen directories down. -/
theorem lookUp_deep {name : String} (short : ¬ FileSystem.spellingLimit <
    (Path.text ⟨.root, ["l", longName, name]⟩).utf8ByteSize) :
    deepWorld.lookUp ⟨.root, ["l", longName, name]⟩ = deepWorld.files.walk 39 (deepPlace 16) [name] := by
  have named : deepSpelling ≠ "" := by
    intro same
    have cut := pieces_deepSpelling
    rw [same] at cut
    exact absurd (congrArg List.length cut) (by decide)
  have start : FileSystem.startOf [] deepSpelling = [] := ite_self _
  have below : deepPlace 15 ++ [longName, name] = deepPlace 16 ++ [name] := rfl
  unfold lookUp FileSystem.lookUp
  rw [if_neg short]
  show deepWorld.files.walk 40 [] ("l" :: [longName, name]) = _
  rw [FileSystem.walk, if_neg (FileSystem.not_bars_of_maySearch rfl _), if_neg (by decide),
    if_neg (by decide), if_neg (by decide), List.nil_append, stored?_deepWorld_link]
  dsimp only
  rw [if_neg named, pieces_deepSpelling, start, below, (deepWorld_holds (Nat.le_refl _)).walk_append]

/-- The link leads fifteen directories down, from where the file is found. It is met as `/l`. -/
theorem arrives_deep :
    deepWorld.Arrives ⟨.root, ["l", longName, "f"]⟩ (deepPlace 16 ++ ["f"]) (.file [120] 0) := by
  have below : deepPlace 15 ++ [longName, "f"] = deepPlace 16 ++ ["f"] := rfl
  have link : deepWorld.files.link? ((Route.enter ⟨none, []⟩ "l").place []) =
      some deepSpelling := FileSystem.link?_eq_some_iff.mpr stored?_deepWorld_link
  refine ⟨.root, ?_, ?_⟩
  · show ∀ link ∈ deepWorld.files.followed [] 40 ⟨none, []⟩ ("l" :: [longName, "f"]), _
    intro met inside
    rw [FileSystem.followed, if_neg (by decide), if_neg (by decide), link] at inside
    dsimp only at inside
    rw [pieces_deepSpelling, along_deepSpelling, below, deepWorld_holds_file.followed_eq_nil] at inside
    rw [List.mem_singleton.mp inside]
    exact deepWorld_short ["l"] (by simp)
  · rw [lookUp_deep (deepWorld_short _ (by simp)), ← (deepWorld_holds (Nat.le_refl _)).walk_append]
    exact deepWorld_holds_file.walk 39

/-- The deep link leads to the file below the root. -/
theorem lookUp_deepLink : deepWorld.lookUp ⟨.root, ["l", longName, "k"]⟩ = .ok (["m"], .file [121] 0) := by
  have pieces : FileSystem.pieces "/m" = ["", "m"] := by decide
  rw [lookUp_deep (deepWorld_short _ (by simp)), FileSystem.walk,
    if_neg (FileSystem.not_bars_of_maySearch rfl _), if_neg (by decide), if_neg (by decide),
    if_neg (by decide), deepWorld_stores.2.2.2]
  dsimp only
  rw [if_neg (by decide), pieces]
  show deepWorld.files.walk 38 [] ("" :: ["m"]) = _
  rw [FileSystem.walk, if_neg (by decide), if_pos (Or.inl rfl)]
  exact deepWorld_holds_shallow.walk 38

/-- The first link is resolved to the place fifteen directories down. -/
theorem resolve_deepSpelling (active : List Route) :
    deepWorld.files.resolve [] active (Route.along ⟨none, []⟩ deepSpelling) (FileSystem.pieces deepSpelling) =
      .settled ⟨none, deepPlace 15⟩ := by
  rw [along_deepSpelling, pieces_deepSpelling, ← List.append_nil (deepPlace 15),
    (deepWorld_holds (by decide)).resolve_append deepWorld_speakable, FileSystem.resolve, List.append_nil]

/-- The deep link is met under a spelling that is too long, and is not resolved. -/
theorem resolve_deepLink : deepWorld.files.resolve [] [] ⟨none, deepPlace 15⟩ [longName, "k"] =
    .settled ⟨none, deepPlace 16 ++ ["k"]⟩ := by
  have absent : deepWorld.files.readLink? [] (Route.enter ⟨none, deepPlace 16⟩ "k") = none := by
    rw [FileSystem.readLink?]
    exact if_pos (deepWorld_long "k" (by simp))
  calc deepWorld.files.resolve [] [] ⟨none, deepPlace 15⟩ [longName, "k"]
      = deepWorld.files.resolve [] [] ⟨none, []⟩ (deepPlace 16 ++ ["k"]) :=
        ((deepWorld_holds (show 15 ≤ 16 by decide)).resolve_append deepWorld_speakable [] [] _).symm
    _ = deepWorld.files.resolve [] [] ⟨none, deepPlace 16⟩ ["k"] :=
        (deepWorld_holds (Nat.le_refl _)).resolve_append deepWorld_speakable [] [] _
    _ = deepWorld.files.resolve [] [] (Route.enter ⟨none, deepPlace 16⟩ "k") [] :=
        FileSystem.resolve_of_readLink?_none ⟨by decide, by decide, by decide⟩ (by decide) absent []
    _ = .settled ⟨none, deepPlace 16 ++ ["k"]⟩ := by
        rw [FileSystem.resolve]
        rfl

theorem canonical_deepLink : deepWorld.files.canonical deepWorld.current ⟨.root, ["l", longName, "k"]⟩ =
    .settled ⟨none, deepPlace 16 ++ ["k"]⟩ := by
  have link : deepWorld.files.readLink? [] (Route.enter ⟨none, []⟩ "l") = some deepSpelling := by
    have short : ¬ FileSystem.spellingLimit < (Route.enter ⟨none, []⟩ "l").path.text.utf8ByteSize :=
      deepWorld_short ["l"] (by simp)
    have searched : (Route.ways [] (Route.enter ⟨none, []⟩ "l")).all deepWorld.files.maySearch = true := rfl
    rw [FileSystem.readLink?, if_neg short, if_pos searched]
    exact FileSystem.link?_eq_some_iff.mpr stored?_deepWorld_link
  show deepWorld.files.resolve [] [] ⟨none, []⟩ ["l", longName, "k"] = _
  rw [FileSystem.resolve, if_neg (by decide), if_neg (by decide), if_neg (by decide)]
  split
  · rename_i none
    cases link.symm.trans none
  · rename_i target found
    obtain rfl : deepSpelling = target := Option.some.inj (link.symm.trans found)
    rw [dif_neg List.not_mem_nil, resolve_deepSpelling]
    exact resolve_deepLink

/-- So the path through the deep link is a path of its own. -/
theorem resolve_throughDeepLink :
    deepWorld.resolve ⟨.root, ["l", longName, "k"]⟩ = .ok (pathOf (deepPlace 16 ++ ["k"])) := by
  rw [World.resolve, canonical_deepLink]
  show deepWorld.unlooped (pathOf (deepPlace 16 ++ ["k"])) = _
  refine unlooped_of_free ?_ ?_
  · rw [Bool.not_eq_true, isUnspeakable, List.any_eq_false]
    exact fun name inside => Bool.eq_false_iff.mp (deepPlace_concat_spoken (by decide) name inside)
  · rw [lookUp_tooLong (by simp)]
    exact fun same => by cases same

/-- **A file may lie too deep for its canonical path**, or a link for being resolved. The file is found through
the link, but the path that it resolves to is longer than a spelling may be, and leads nowhere. And the other file,
which has a short path, has a second one through the deep link. -/
theorem resolvePath_deep :
    deepWorld.files.Speakable ∧ deepWorld.files.Holds deepWorld.current .directory ∧
      (deepWorld.lookUp ((⟨.root, []⟩ : Path).join ⟨.here, ["l", longName, "f"]⟩) =
          .ok (deepPlace 16 ++ ["f"], .file [120] 0) ∧
        deepWorld.resolvePath ⟨.root, []⟩ ⟨.here, ["l", longName, "f"]⟩ =
          .ok (pathOf (deepPlace 16 ++ ["f"])) ∧
        deepWorld.lookUp (pathOf (deepPlace 16 ++ ["f"])) = .error .tooLong) ∧
      deepWorld.lookUp ((⟨.root, []⟩ : Path).join ⟨.here, ["m"]⟩) = .ok (["m"], .file [121] 0) ∧
        deepWorld.lookUp ((⟨.root, []⟩ : Path).join ⟨.here, ["l", longName, "k"]⟩) = .ok (["m"], .file [121] 0) ∧
        deepWorld.resolvePath ⟨.root, []⟩ ⟨.here, ["m"]⟩ = .ok (pathOf ["m"]) ∧
        deepWorld.resolvePath ⟨.root, []⟩ ⟨.here, ["l", longName, "k"]⟩ =
          .ok (pathOf (deepPlace 16 ++ ["k"])) := by
  have expanded : deepWorld.expandHome ⟨.here, ["l", longName, "f"]⟩ =
      .ok ⟨.here, ["l", longName, "f"]⟩ := rfl
  have arrives : deepWorld.Arrives ((⟨.root, []⟩ : Path).join ⟨.here, ["l", longName, "f"]⟩)
      (deepPlace 16 ++ ["f"]) (.file [120] 0) := arrives_deep
  have shallow : deepWorld.Arrives ((⟨.root, []⟩ : Path).join ⟨.here, ["m"]⟩) ["m"] (.file [121] 0) :=
    arrives_pathOf deepWorld_holds_shallow (deepWorld_short ["m"] (by simp))
  have expandedShallow : deepWorld.expandHome ⟨.here, ["m"]⟩ = .ok ⟨.here, ["m"]⟩ := rfl
  have expandedLink : deepWorld.expandHome ⟨.here, ["l", longName, "k"]⟩ =
      .ok ⟨.here, ["l", longName, "k"]⟩ := rfl
  have joined : (⟨.root, []⟩ : Path).join ⟨.here, ["l", longName, "k"]⟩ = ⟨.root, ["l", longName, "k"]⟩ := rfl
  refine ⟨deepWorld_speakable, .root, ⟨arrives.found, arrives.resolvePath deepWorld_speakable expanded, ?_⟩,
    shallow.found, ?_, shallow.resolvePath deepWorld_speakable expandedShallow, ?_⟩
  · exact lookUp_tooLong (by simp)
  · rw [joined]
    exact lookUp_deepLink
  · rw [resolvePath_eq, expandedLink]
    dsimp only [Except.bind]
    rw [joined]
    exact resolve_throughDeepLink

end World

end PromptWeave
