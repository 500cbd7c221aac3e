/-
**File systems.**

A file system says what is stored under each absolute row of names: a file, a link or a directory,
and which of them its user may search or read. A row is looked up as an operating system does it:
name by name from the root, every link being followed from the directory that holds it, two dots
leading to the parent. Links are resolved one at a time: the system is asked for each prefix of the
way whether it is a link, and a prefix that it cannot look up is none. Main statements:

* `FileSystem.lookUp`: what a row of names leads to;
* `Route`: how the way to a place is spelled while links are resolved;
* `FileSystem.canonical`: the way without links and dots, as far as links are found on it;
* `FileSystem.write`: a change.
-/

import PromptWeave.Storage.Path

namespace PromptWeave

open Text

/-- The row of names of an absolute place, from the root on. -/
abbrev Place := List String

/-- What a place holds. -/
inductive Entry
  /-- A file with its bytes and the time of its last change, in seconds. -/
  | file (content : List UInt8) (modified : Int)
  /-- A link to a spelling. -/
  | link (target : String)
  /-- A directory. -/
  | directory
deriving DecidableEq, Repr

/-- Why a place cannot be reached. -/
inductive Obstacle
  /-- Nothing is there. -/
  | absent
  /-- A name on the way is no directory. -/
  | notDirectory
  /-- Too many links on the way. -/
  | loop
  /-- A name or the whole spelling is too long. -/
  | tooLong
  /-- A directory on the way may not be searched, or what is there may not be read. -/
  | denied
deriving DecidableEq, Repr

/-- A file system: what is stored where, and what its user may not do. Every directory on the way to
an entry is an entry. -/
structure FileSystem where
  entries : List (Place × Entry)
  /-- The directories in which no name may be looked up. -/
  unsearchable : List Place := []
  /-- The files and directories that may not be opened. -/
  unreadable : List Place := []
  /-- The time of the last change and the size of each directory of which they are known. -/
  stamps : List (Place × Int × Nat) := []
deriving DecidableEq, Repr

namespace FileSystem

/-- What is stored under a row of names, links not being followed. -/
def stored? (files : FileSystem) (place : Place) : Option Entry :=
  match place with
  | [] => some .directory
  | _ => (files.entries.find? fun pair => pair.1 = place).map (·.2)

/-- The target of a link that is stored under a row of names. -/
def link? (files : FileSystem) (place : Place) : Option String :=
  match files.stored? place with
  | some (.link target) => some target
  | _ => none

/-- Whether names may be looked up in a directory. -/
def maySearch (files : FileSystem) (directory : Place) : Bool :=
  !files.unsearchable.contains directory

/-- Whether a name that is met in a directory may not be looked up there. -/
def bars (files : FileSystem) (directory : Place) (name : String) : Bool :=
  name != "" && !files.maySearch directory

theorem not_bars_of_maySearch {files : FileSystem} {directory : Place}
    (search : files.maySearch directory = true) (name : String) : ¬ files.bars directory name = true := by
  simp [bars, search]

theorem maySearch_of_not_bars {files : FileSystem} {directory : Place} {name : String} (named : name ≠ "")
    (free : ¬ files.bars directory name = true) : files.maySearch directory = true := by
  simpa [bars, named] using free

/-- Whether what is stored under a row of names may be opened. -/
def mayRead (files : FileSystem) (place : Place) : Bool := !files.unreadable.contains place

/-- The time of the last change and the size of a directory. -/
def stamp (files : FileSystem) (place : Place) : Int × Nat :=
  ((files.stamps.find? fun pair => pair.1 = place).map (·.2)).getD (0, 0)

/-! ### Changes -/

/-- Stores an entry in place of what was there. -/
def put (files : FileSystem) (place : Place) (entry : Entry) : FileSystem :=
  { files with entries := files.entries.filter (fun pair => pair.1 ≠ place) ++ [(place, entry)] }

/-- Makes the directories of a row of names that are not there yet. -/
def makeDirectories (files : FileSystem) (place : Place) : FileSystem :=
  (List.range place.length).foldl
    (fun files depth =>
      let directory := place.take (depth + 1)
      match files.stored? directory with
      | some _ => files
      | none => files.put directory .directory)
    files

/-- Stores an entry together with the directories on the way. -/
def write (files : FileSystem) (place : Place) (entry : Entry) : FileSystem :=
  (files.makeDirectories place.dropLast).put place entry

/-! ### Looking up -/

/-- The most bytes of one name. -/
def nameLimit : Nat := 255

/-- The most bytes of a spelling. -/
def spellingLimit : Nat := 4095

/-- The most links that are followed on one way. -/
def linkLimit : Nat := 40

/-- The pieces of a spelling between slashes. -/
def pieces (spelling : String) : List String := (splitOn '/' spelling.toList).map String.ofList

/-- Where a spelling starts from when it is met in a directory. -/
def startOf (directory : Place) (spelling : String) : Place :=
  if spelling.toList.head? = some '/' then [] else directory

/-- Walks from a directory along names, following links, with so many links left to follow. -/
def walk (files : FileSystem) (links : Nat) (directory : Place) (names : List String) :
    Except Obstacle (Place × Entry) :=
  match names with
  | [] => .ok (directory, .directory)
  | name :: rest =>
    if files.bars directory name then .error .denied
    else if name = "" ∨ name = "." then walk files links directory rest
    else if name = ".." then walk files links directory.dropLast rest
    else if nameLimit < name.utf8ByteSize then .error .tooLong
    else match files.stored? (directory ++ [name]) with
      | none => .error .absent
      | some .directory => walk files links (directory ++ [name]) rest
      | some (.file content modified) =>
        if rest = [] then .ok (directory ++ [name], .file content modified)
        else .error .notDirectory
      | some (.link target) =>
        match links with
        | 0 => .error .loop
        | links + 1 =>
          if target = "" then .error .absent
          else walk files links (startOf directory target) (pieces target ++ rest)
termination_by (links, names.length)

/-- What a path leads to from the current directory. -/
def lookUp (files : FileSystem) (current : Place) (path : Path) :
    Except Obstacle (Place × Entry) :=
  if spellingLimit < path.text.utf8ByteSize then .error .tooLong
  else files.walk linkLimit (if path.isAbsolute then [] else current) path.parts

end FileSystem

/-! ### Ways and how they are spelled -/

/-- A way to a place as it is spelled: from the root, or from the current directory so many steps up. -/
structure Route where
  /-- The steps up from the current directory; nothing if the spelling begins at the root. -/
  ups : Option Nat
  /-- The names from there on. -/
  names : List String
deriving DecidableEq, Repr

namespace Route

/-- The place that the names of a route go on from. -/
def origin (current : Place) : Option Nat → Place
  | none => []
  | some ups => current.take (current.length - ups)

/-- The place that a route leads to where none of its names is a link. -/
def place (current : Place) (route : Route) : Place := origin current route.ups ++ route.names

/-- The spelling of a route, as a path. -/
def path (route : Route) : Path :=
  match route.ups with
  | none => ⟨.root, route.names⟩
  | some ups => ⟨.here, List.replicate ups ".." ++ route.names⟩

/-- The route that the names of a path go on from. -/
def beginning (path : Path) : Route := ⟨if path.isAbsolute then none else some 0, []⟩

/-- One name further. -/
def enter (route : Route) (name : String) : Route := ⟨route.ups, route.names ++ [name]⟩

/-- One step up. The root has nothing above it. -/
def up (route : Route) : Route :=
  if route.names = [] then ⟨route.ups.map (· + 1), []⟩ else ⟨route.ups, route.names.dropLast⟩

/-- The route that a spelling goes on from when it is met at the end of a route. -/
def along (route : Route) (spelling : String) : Route :=
  if spelling.toList.head? = some '/' then ⟨none, []⟩ else route

/-- The directories in which the names of a spelling are looked up. -/
def ways (current : Place) (route : Route) : List Place :=
  (match route.ups with
    | none => []
    | some ups => (List.range ups).map fun steps => origin current (some steps)) ++
  (List.range route.names.length).map fun depth =>
    origin current route.ups ++ route.names.take depth

end Route

namespace FileSystem

/-! ### Resolving links -/

/-- The target of a link under a route, as the system gives it: a route whose spelling is too long,
or on which a directory may not be searched, cannot be looked up. -/
def readLink? (files : FileSystem) (current : Place) (route : Route) : Option String :=
  if spellingLimit < route.path.text.utf8ByteSize then none
  else if (route.ways current).all files.maySearch then files.link? (route.place current)
  else none

/-- The steps up that a spelling which can be looked up may begin with. -/
def leads : List (Option Nat) := none :: (List.range (spellingLimit + 2)).map some

/-- The routes under which links are found, but for those being resolved. -/
def linksBeside (files : FileSystem) (current : Place) (active : List Route) : List Route :=
  (files.entries.flatMap fun pair => leads.map fun ups =>
    (⟨ups, pair.1.drop (Route.origin current ups).length⟩ : Route)).filter fun route =>
      !active.contains route

theorem length_le_utf8ByteSize_intercalate (name : String) (names : List String) :
    names.length ≤ ("/".intercalate (name :: names)).utf8ByteSize := by
  induction names generalizing name with
  | nil => exact Nat.zero_le _
  | cons next names ih =>
    have slash : "/".utf8ByteSize = 1 := rfl
    rw [String.intercalate_cons_cons, String.utf8ByteSize_append, String.utf8ByteSize_append,
      List.length_cons, slash]
    have := ih next
    omega

/-- A spelling is as long as it has steps up. -/
theorem ups_le_utf8ByteSize (ups : Nat) (names : List String) :
    ups ≤ (Route.path ⟨some ups, names⟩).text.utf8ByteSize + 1 := by
  cases ups with
  | zero => exact Nat.zero_le _
  | succ ups =>
    have long := length_le_utf8ByteSize_intercalate ".." (List.replicate ups ".." ++ names)
    rw [List.length_append, List.length_replicate] at long
    show _ ≤ (Path.text ⟨.here, ".." :: (List.replicate ups ".." ++ names)⟩).utf8ByteSize + 1
    rw [Path.text, if_neg (by simp), String.utf8ByteSize_append]
    dsimp only
    omega

theorem mem_leads_of_readLink? {files : FileSystem} {current : Place} {route : Route}
    {target : String} (found : files.readLink? current route = some target) :
    route.ups ∈ leads := by
  unfold readLink? at found
  split at found
  · cases found
  · rename_i short
    obtain ⟨ups, names⟩ := route
    cases ups with
    | none => exact List.mem_cons_self
    | some ups =>
      have := ups_le_utf8ByteSize ups names
      exact List.mem_cons_of_mem _ (List.mem_map.mpr ⟨ups, List.mem_range.mpr (by omega), rfl⟩)

theorem link?_of_readLink? {files : FileSystem} {current : Place} {route : Route} {target : String}
    (found : files.readLink? current route = some target) :
    files.link? (route.place current) = some target := by
  unfold readLink? at found
  split at found
  · cases found
  · split at found
    · exact found
    · cases found

/-- A link that is stored is an entry. -/
theorem exists_mem_of_link? {files : FileSystem} {place : Place} {target : String}
    (link : files.link? place = some target) : ∃ entry, (place, entry) ∈ files.entries := by
  unfold link? stored? at link
  split at link
  · rename_i found
    split at found
    · simp at found
    · cases hit : files.entries.find? (fun pair => pair.1 = place) with
      | none => simp [hit] at found
      | some pair =>
        have inside := List.mem_of_find?_eq_some hit
        have same := List.find?_some hit
        simp only [decide_eq_true_eq] at same
        exact ⟨pair.2, by rw [← same]; exact inside⟩
  · simp at link

theorem linksBeside_length_lt {files : FileSystem} {current : Place} {active : List Route}
    {route : Route} {target : String} (found : files.readLink? current route = some target)
    (fresh : route ∉ active) :
    (files.linksBeside current (route :: active)).length <
      (files.linksBeside current active).length := by
  obtain ⟨entry, inside⟩ := exists_mem_of_link? (link?_of_readLink? found)
  have member : route ∈ files.linksBeside current active := by
    refine List.mem_filter.mpr ⟨List.mem_flatMap.mpr ⟨_, inside, List.mem_map.mpr
      ⟨route.ups, mem_leads_of_readLink? found, ?_⟩⟩, by simpa using fresh⟩
    rw [Route.place, List.drop_left]
  have sub : files.linksBeside current (route :: active) =
      (files.linksBeside current active).filter fun other => other ≠ route := by
    unfold linksBeside
    rw [List.filter_filter]
    apply List.filter_congr
    intro other _
    by_cases equal : other = route <;> simp [equal]
  rw [sub]
  refine Nat.lt_of_le_of_ne (List.length_filter_le _ _) fun equal => ?_
  simpa using List.length_filter_eq_length_iff.mp equal _ member

/-- How far the resolution of links came. -/
inductive Resolution
  /-- Every link that was found was resolved. -/
  | settled (route : Route)
  /-- A link leads back to itself; the names beyond it stand as they are. -/
  | looped (names : List String)
  /-- A name holds the character that no name can hold. -/
  | unspeakable
deriving DecidableEq, Repr

/-- Names beyond a link that leads back to itself. -/
def beyond (place : List String) (rest : List String) : List String :=
  match rest with
  | "" :: _ :: _ => rest
  | _ => place ++ rest

/-- Resolves the links on a way from the end of a route along pieces of a spelling. -/
def resolve (files : FileSystem) (current : Place) (active : List Route) (route : Route)
    (rest : List String) : Resolution :=
  match rest with
  | [] => .settled route
  | name :: rest =>
    if name = "" ∨ name = "." then resolve files current active route rest
    else if name = ".." then resolve files current active route.up rest
    else if name.toList.contains '\x00' then .unspeakable
    else match _link : files.readLink? current (route.enter name) with
      | none => resolve files current active (route.enter name) rest
      | some target =>
        if _known : route.enter name ∈ active then
          .looped (beyond ((route.enter name).place current) rest)
        else match resolve files current (route.enter name :: active)
            (route.along target) (pieces target) with
          | .settled inner => resolve files current active inner rest
          | .looped names => .looped (beyond names rest)
          | .unspeakable => .unspeakable
termination_by ((files.linksBeside current active).length, rest.length)
decreasing_by
  all_goals simp_wf
  all_goals first
    | exact Prod.Lex.right _ (by simp)
    | exact Prod.Lex.left _ _ (linksBeside_length_lt _link _known)

/-- Names without empty ones and dots, two dots taking the name before them away. -/
def tidy (names : List String) : Place :=
  names.foldl
    (fun place name =>
      if name = "" ∨ name = "." then place
      else if name = ".." then place.dropLast
      else place ++ [name])
    []

/-- The path of names beyond a link that leads back to itself. Two slashes at its beginning stay. -/
def loopPath (names : List String) : Path :=
  match names with
  | "" :: "" :: "" :: _ :: _ => ⟨.root, tidy names⟩
  | "" :: "" :: _ :: _ => ⟨.doubleRoot, tidy names⟩
  | _ => ⟨.root, tidy names⟩

/-- The route of a path when all links on the way are resolved, as far as they are found. -/
def canonical (files : FileSystem) (current : Place) (path : Path) : Resolution :=
  files.resolve current [] (Route.beginning path) path.parts

end FileSystem

end PromptWeave
