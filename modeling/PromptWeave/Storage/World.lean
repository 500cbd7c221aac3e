/-
**The world of an operation.**

An operation sees a file system, the current directory, the environment and the home directories of
the users that the system knows. Documents are known by their canonical paths: `~` is expanded, a
relative path goes on from a base directory, and all links are resolved, so that one document has
one path however it is spelled. Main statements:

* `World.expandHome`: a path with its leading `~` or `~user` replaced by a home directory;
* `World.resolve`: the canonical path of a path;
* `World.resolvePath` and `World.resolveBase`: the path of a document and of the base directory;
* `World.readDocument`: the text of a document.
-/

import PromptWeave.Failure

namespace PromptWeave

open Text

/-- What an operation sees. -/
structure World where
  files : FileSystem
  /-- The current directory, without links. -/
  current : Place
  /-- The environment, by name. -/
  environment : Entries String String
  /-- The home directory that the system knows for the user who runs the operation. -/
  ownHome : Option String := none
  /-- The home directories that the system knows, by the names of their users. -/
  homes : Entries String String := []

namespace World

/-- The world in which nothing is stored and nothing is set. -/
def empty : World where
  files := { entries := [] }
  current := []
  environment := []

/-- The value of a variable of the environment. -/
def environment? (world : World) (name : String) : Option String :=
  Entries.get? (· == ·) name world.environment

/-- The absolute path of a place. -/
def pathOf (place : Place) : Path := ⟨.root, place⟩

/-- Whether a path holds the character that no path can hold. -/
def isUnspeakable (path : Path) : Bool := path.parts.any fun name => name.toList.contains '\x00'

/-! ### Canonical paths -/

/-- The home directory of a user, or without a name that of the user who runs the operation: the one
that the environment sets, else the one that the system knows. -/
def home? (world : World) (user : Text) : Option String :=
  if user = [] then (world.environment? "HOME").or world.ownHome
  else Entries.get? (· == ·) (String.ofList user) world.homes

/-- The spelling of a home directory: without slashes at its end; the root if nothing is left. -/
def homeSpelling (home : String) : String :=
  let kept := (home.toList.reverse.dropWhile (· == '/')).reverse
  if kept = [] then "/" else String.ofList kept

/-- A path with its leading `~` or `~user` replaced by the home directory. -/
def expandHome (world : World) (path : Path) : Except HostFault Path :=
  match path.anchor, path.parts with
  | .here, first :: rest =>
    match first.toList with
    | '~' :: user =>
      if user.contains '\x00' then .error .nullCharacter
      else match world.home? user with
        | none => .error .homeless
        | some home =>
          if (homeSpelling home).toList.head? = some '~' then .error .homeless
          else
            let start := Path.parse (homeSpelling home)
            .ok ⟨start.anchor, start.parts ++ rest⟩
    | _ => .ok path
  | _, _ => .ok path

/-- A path as it stands, unless the system finds that a link on its way leads back to itself. -/
def unlooped (world : World) (path : Path) : Except HostFault Path :=
  if isUnspeakable path then .error .nullCharacter
  else match world.files.lookUp world.current path with
    | .error .loop => .error (.linkLoop path)
    | _ => .ok path

/-- The canonical path of a path. -/
def resolve (world : World) (path : Path) : Except HostFault Path :=
  match world.files.canonical world.current path with
  | .unspeakable => .error .nullCharacter
  | .settled route => world.unlooped (pathOf (route.place world.current))
  | .looped names => world.unlooped (FileSystem.loopPath names)

/-- The canonical path of a path that goes on from a base directory. -/
def resolvePath (world : World) (base : Path) (path : Path) : Except HostFault Path := do
  let target ← world.expandHome path
  world.resolve (base.join target)

/-- The canonical path of a directory, `~` being expanded. -/
def resolveDirectory (world : World) (path : Path) : Except HostFault Path := do
  let target ← world.expandHome path
  world.resolve target

/-- The directory that a document's path starts from: the one given, else the one configured, else
the document's own if its path is absolute. -/
def resolveBase (world : World) (spelling : String) (given configured : Option Path) :
    Except Fault Path :=
  match given, configured with
  | some base, _ => (world.resolveDirectory base).mapError Fault.host
  | none, some base => (world.resolveDirectory base).mapError Fault.host
  | none, none =>
    match world.expandHome (Path.parse spelling) with
    | .error fault => .error (.host fault)
    | .ok candidate =>
      if candidate.isAbsolute then (world.resolve candidate.parent).mapError Fault.host
      else .error (.failure (.configuration
        (s!"Cannot resolve relative document path '{spelling}': no base directory supplied. "
          ++ "Pass base_dir=... or set resolution.base_dir in fml.yaml.")
        (Failure.fields [("key", .string "resolution.base_dir"), ("path", .string spelling)])))

/-! ### Files -/

/-- What a path leads to. -/
def lookUp (world : World) (path : Path) : Except Obstacle (Place × Entry) :=
  world.files.lookUp world.current path

/-- Whether a path leads anywhere; a name that is too long and a directory that may not be searched
are faults. -/
def exists? (world : World) (path : Path) : Except HostFault Bool :=
  if isUnspeakable path then .ok false
  else match world.lookUp path with
    | .ok _ => .ok true
    | .error obstacle =>
      if obstacle.isFault then .error (.obstacle obstacle path) else .ok false

/-- Whether a path leads to a file, with the same faults. -/
def isFile? (world : World) (path : Path) : Except HostFault Bool :=
  if isUnspeakable path then .ok false
  else match world.lookUp path with
    | .ok (_, .file _ _) => .ok true
    | .ok _ => .ok false
    | .error obstacle =>
      if obstacle.isFault then .error (.obstacle obstacle path) else .ok false

/-- The bytes of a file. -/
def readBytes (world : World) (path : Path) : Except HostFault (List UInt8) :=
  match world.lookUp path with
  | .ok (place, .file content _) =>
    if world.files.mayRead place then .ok content else .error (.obstacle .denied path)
  | .ok (place, _) =>
    if world.files.mayRead place then .error (.isDirectory path)
    else .error (.obstacle .denied path)
  | .error obstacle => .error (.obstacle obstacle path)

/-- The text of a file, with universal line ends. -/
def readText (world : World) (path : Path) : Except HostFault Text := do
  let bytes ← world.readBytes path
  match Utf8.decode bytes with
  | .ok text => return Utf8.universalLines text
  | .error fault => throw (.undecodable fault)

/-- The text of a document; a document that is not there and one that cannot be read are failures
that name the including document. -/
def readDocument (world : World) (path : Path) (includedFrom : Option Path) (chain : List Path) :
    Except Fault Text :=
  match world.exists? path with
  | .error fault => .error (.host fault)
  | .ok false => .error (.failure (.notFound path includedFrom chain))
  | .ok true =>
    match world.readText path with
    | .ok text => .ok text
    | .error (.undecodable fault) =>
      let words := fault.reason.text
      .error (.failure (.unreadable path s!"not valid UTF-8 ({words})" includedFrom))
    | .error (.isDirectory path) =>
      .error (.failure (.unreadable path isDirectoryWords includedFrom))
    | .error (.obstacle obstacle path) =>
      .error (.failure (.unreadable path obstacle.system.2 includedFrom))
    | .error fault => .error (.host fault)

end World

end PromptWeave
