/-
**Data files.**

A data file is read piece by piece, each piece being decoded when it is needed. So the positions of
bytes that are no text count from the start of a piece, a character that a piece ends in belongs to
the next piece, and what is wrong at the beginning of a text may end the reading before a later
piece is looked at. What makes values of texts is a loader; the one of this library reads a text to
its end before it looks for what is wrong with it. A default value can stand for a data file that is
not there or is malformed. Main definitions:

* `Utf8.decodePiece`: the characters of a piece;
* `Loader` and `Loader.load`: what reads data files, and what it makes of the bytes of one;
* `World.readData` and `World.readDataOr`: the value of a data file, and the value or a default.
-/

import PromptWeave.Storage.World
import PromptWeave.Yaml.Document

namespace PromptWeave

/-- The text of the whole characters of a piece, and the bytes of one that goes on behind it. -/
def Utf8.decodePiece (piece : List UInt8) : Except Utf8.Fault (Text × List UInt8) :=
  match Utf8.decode piece with
  | .ok text => .ok (text, [])
  | .error flaw =>
    if flaw.reason = .truncated then
      match Utf8.decode (piece.take flaw.start) with
      | .ok text => .ok (text, piece.drop flaw.start)
      | .error flaw => .error flaw
    else .error flaw

/-- What reads data files. -/
structure Loader where
  /-- The number of bytes that are read next, one at least, when a text and some bytes that are not
  decoded yet have been read. -/
  ahead : Text → List UInt8 → Nat
  /-- What is wrong with a text of which only this beginning has been read. -/
  early? : Text → Option HostFault
  /-- The value of a whole text. -/
  whole : Text → Except HostFault Shared

namespace Loader

/-- The number of bytes in the next piece. -/
def size (loader : Loader) (past : Text) (held : List UInt8) : Nat := max 1 (loader.ahead past held)

theorem size_pos (loader : Loader) (past : Text) (held : List UInt8) : 0 < loader.size past held :=
  Nat.lt_of_lt_of_le Nat.zero_lt_one (Nat.le_max_left ..)

theorem length_drop_size_lt (loader : Loader) (past : Text) (held : List UInt8) {bytes : List UInt8}
    (more : bytes ≠ []) : (bytes.drop (loader.size past held)).length < bytes.length := by
  have := List.length_pos_iff.mpr more
  have := loader.size_pos past held
  rw [List.length_drop]
  omega

/-- The value of the bytes that are held back and of those that are still to be read, behind a text. -/
def loadFrom (loader : Loader) (past : Text) (held bytes : List UInt8) : Except HostFault Shared :=
  match loader.early? past with
  | some fault => .error fault
  | none =>
    if _more : bytes = [] then
      match Utf8.decode held with
      | .ok text => loader.whole (Utf8.universalLines (past ++ text))
      | .error flaw => .error (.undecodable flaw)
    else
      match Utf8.decodePiece (held ++ bytes.take (loader.size past held)) with
      | .ok (text, left) => loader.loadFrom (past ++ text) left (bytes.drop (loader.size past held))
      | .error flaw => .error (.undecodable flaw)
termination_by bytes.length
decreasing_by exact loader.length_drop_size_lt past held _more

/-- The value of the bytes of a file. -/
def load (loader : Loader) (bytes : List UInt8) : Except HostFault Shared :=
  loader.loadFrom [] [] bytes

end Loader

/-- The number of bytes that are read at a time. -/
def Utf8.pieceSize : Nat := 8192

/-- The loader that looks for what is wrong with a text when it has the whole of it. -/
def Yaml.loader : Loader where
  ahead := fun _ _ => Utf8.pieceSize
  early? := fun _ => none
  whole := Yaml.readShared

namespace World

/-- What a loader makes of a file. -/
def loadFile (loader : Loader) (world : World) (path : Path) : Except HostFault Shared := do
  loader.load (← world.readBytes path)

/-- The value of a data file that has to be there. -/
def readData (world : World) (path : Path) : Except HostFault Shared := do
  if ← world.exists? path then world.loadFile Yaml.loader path
  else throw (.missingFile path)

end World

/-- Whether a default value can stand for a data file with this fault. -/
def HostFault.isExcused : HostFault → Bool
  | .obstacle _ _ => true
  | .isDirectory _ => true
  | .missingFile _ => true
  | .malformedData => true
  | _ => false

namespace World

/-- The value of a data file, or a default where the file has none. Unless faults matter the default
also stands for a file that is not there, cannot be opened or is malformed. -/
def readDataOr (loader : Loader) (world : World) (path : Path) (default : Value)
    (faultsMatter : Bool) : Except HostFault Value := do
  if ← world.exists? path then
    match world.loadFile loader path with
    | .ok shared => return if shared.value.isNull then default else shared.value
    | .error fault => if fault.isExcused && !faultsMatter then return default else throw fault
  else if faultsMatter then throw (.missingFile path)
  else return default

end World

end PromptWeave
