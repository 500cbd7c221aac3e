/-
**The program.**

The program runs on the files that it needs and no others: a run that misses a document is repeated
once the document has been looked for. Main definitions:

* `observe`: what the names on a way stand for;
* `settle`: a run with all documents that it needs;
* `environment` and `users`: what the process and the system know;
* `main`: the program.
-/

import PromptWeave.Command.Program

namespace PromptWeave.Command

open Text

/-- Adds to the files what the names on a way from a place stand for, links being followed. -/
partial def observe (files : FileSystem) (place : Place) : List String → IO FileSystem
  | [] => return files
  | ".." :: names => observe files place.dropLast names
  | name :: names => do
    let here := place ++ [name]
    let spelling := (World.pathOf here).text
    match ← (IO.FS.realPath spelling).toBaseIO with
    | .error _ => return files
    | .ok actual =>
      let target := (Path.parse actual.toString).parts
      if target ≠ here then
        let files ← observe (files.write here (.link actual.toString)) [] target
        observe files target names
      else if ← actual.isDir then observe (files.write here .directory) here names
      else match ← (IO.FS.readBinFile spelling).toBaseIO with
        | .ok bytes => return files.write here (.file bytes.toList 0)
        | .error (.permissionDenied ..) =>
          let files := files.write here (.file [] 0)
          return { files with unreadable := here :: files.unreadable }
        | .error _ => return files

/-- Adds what a path stands for to the files of a world. -/
def observePath (world : World) (path : Path) : IO World := do
  let start := if path.isAbsolute then [] else world.current
  return { world with files := ← observe world.files start path.parts }

/-- The document that a run missed. -/
def missed? (ending : Ending) : Option Path :=
  match ending.reported with
  | some (.failure (.notFound path _ _)) => some path
  | _ => none

/-- Runs the program, and again for each document that it missed and that can be found. -/
partial def settle (world : World) (words : List String) : IO Ending := do
  let (_, ending) := Program.run Configurations.empty world words
  match missed? ending with
  | none => return ending
  | some path =>
    let found ← observePath world path
    match found.exists? path with
    | .ok true => settle found words
    | _ => return ending

/-- The fields between colons in the lines of a file of the system; none if it cannot be read. -/
def tableOf (file : String) : IO (List (List String)) := do
  match ← (IO.FS.readBinFile file).toBaseIO with
  | .error _ => return []
  | .ok bytes =>
    let lines := splitOn '\n' ((Utf8.decode bytes.toList).toOption.getD [])
    return lines.map fun line => (splitOn ':' line).map String.ofList

/-- The home directories of the users that the system knows, by their names and numbers. -/
def users : IO (List (String × String × String)) := do
  return (← tableOf "/etc/passwd").filterMap fun fields =>
    match fields with
    | [name, _, number, _, _, home, _] => some (name, number, home)
    | _ => none

/-- The number of the user who runs the process. -/
def userNumber : IO String := do
  let fields := (← tableOf "/proc/self/status").findSome? fun fields =>
    match fields with
    | ["Uid", numbers] => some numbers
    | _ => none
  return String.ofList (((fields.getD "").toList.dropWhile isBlank).takeWhile fun c => !isBlank c)

/-- The environment of the process. -/
def environment : IO (Entries String String) := do
  match ← (IO.FS.readBinFile "/proc/self/environ").toBaseIO with
  | .error _ => return []
  | .ok bytes =>
    let pieces := splitOn '\x00' ((Utf8.decode bytes.toList).toOption.getD [])
    return pieces.filterMap fun piece =>
      match piece.dropWhile (· != '=') with
      | _ :: value => some (String.ofList (piece.takeWhile (· != '=')), String.ofList value)
      | [] => none

end PromptWeave.Command

open PromptWeave PromptWeave.Command

/-- Runs the program on the words of its command line. -/
def main (words : List String) : IO UInt32 := do
  let start ← IO.FS.realPath (← IO.currentDir)
  let current := (Path.parse start.toString).parts
  let users ← users
  let number ← userNumber
  let mut world : World :=
    { files := { entries := [] }, current, environment := ← environment
      ownHome := (users.find? fun user => user.2.1 == number).map (·.2.2)
      homes := users.map fun user => (user.1, user.2.2) }
  world ← observePath world (World.pathOf current)
  match Program.asked words with
  | .error _ => pure ()
  | .ok (_, request) =>
    for path in request.paths do
      match world.expandHome path with
      | .error _ => pure ()
      | .ok path => world ← observePath world path
  let ending ← settle world words
  IO.print (String.ofList ending.output)
  IO.eprint (String.ofList ending.errors)
  match ending.status with
  | .ok status => return status.toUInt32
  | .error fault =>
    IO.eprintln fault.message
    return 1
