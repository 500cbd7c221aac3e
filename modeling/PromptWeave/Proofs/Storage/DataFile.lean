/-
**Data files for which a default may stand.**

A default stands for a data file that is not there, cannot be opened, is malformed or holds no value. It
does not stand for one whose bytes are no text, nor for one with which the loader cannot go on for another
reason, and there is no answer where it cannot be said whether the file is there. The bytes are read in
pieces, and a piece may end inside a character; the text is that of the bytes as a whole all the same,
since a reading that stops has read whole characters up to there. A loader that finds something wrong at
the beginning of a text need not come to bytes behind it that are none. Main statements:

* `Loader.fronts`: the texts that a loader has read when it reads on, and `Loader.load_comes`: it ends
  with what is wrong with one of them, with the value of the whole text, or at bytes that are no text;
* `World.Finds` and `World.Breaks`: what is found at a path, and why a reading breaks off;
* `World.readDataOr_outcome`: reading comes to one of these, and `World.readDataOr_spoiled`: a file for
  which no default stands.
-/

import PromptWeave.Proofs.Storage.Refusal
import PromptWeave.Proofs.Yaml.Faults

namespace PromptWeave

namespace Utf8

/-! ### One character -/

/-- The bytes of a character are the same whatever stands behind them. -/
theorem readTail_eq_complete {low high code right tails final : Nat} {bytes after : List UInt8}
    (read : readTail low high code right tails bytes = .complete final after) :
    ∃ taken, bytes = taken ++ after ∧
      ∀ other, readTail low high code right tails (taken ++ other) = .complete final other := by
  induction tails generalizing low high code right bytes with
  | zero =>
    simp only [readTail, Tail.complete.injEq] at read
    exact ⟨[], read.2, fun other => by rw [readTail, read.1, List.nil_append]⟩
  | succ tails ih =>
    cases bytes with
    | nil => simp [readTail] at read
    | cons byte rest =>
      unfold readTail at read
      split at read
      · next inside =>
        obtain ⟨taken, rfl, anyway⟩ := ih read
        refine ⟨byte :: taken, rfl, fun other => ?_⟩
        rw [List.cons_append, readTail, if_pos inside]
        exact anyway other
      · cases read

theorem readTail_append_wrong {low high code right tails good : Nat} {bytes : List UInt8} (more : List UInt8)
    (read : readTail low high code right tails bytes = .wrong good) :
    readTail low high code right tails (bytes ++ more) = .wrong good := by
  induction tails generalizing low high code right bytes with
  | zero => simp [readTail] at read
  | succ tails ih =>
    cases bytes with
    | nil => simp [readTail] at read
    | cons byte rest =>
      rw [List.cons_append]
      unfold readTail at read ⊢
      split at read
      · next inside =>
        rw [if_pos inside]
        exact ih read
      · next outside =>
        rw [if_neg outside]
        exact read

variable {position : Nat} {byte : UInt8} {rest : List UInt8} {lead : Lead}

theorem decodeFrom_nil : decodeFrom position [] = .ok [] := by
  rw [decodeFrom]

theorem decodeFrom_unled (unled : lead? byte.toNat = none) :
    decodeFrom position (byte :: rest) =
      .error ⟨.invalidStart, byte, position, position + 1⟩ := by
  rw [decodeFrom]
  split
  · rfl
  · simp_all

theorem decodeFrom_complete {code : Nat} {after : List UInt8} (led : lead? byte.toNat = some lead)
    (read : readTail lead.low lead.high lead.share 1 lead.tails rest = .complete code after) :
    decodeFrom position (byte :: rest) =
      (decodeFrom (position + ((byte :: rest).length - after.length)) after).map
        (Char.ofNat code :: ·) := by
  rw [decodeFrom]
  split
  · simp_all
  · split <;> simp_all

theorem decodeFrom_wrong {good : Nat} (led : lead? byte.toNat = some lead)
    (read : readTail lead.low lead.high lead.share 1 lead.tails rest = .wrong good) :
    decodeFrom position (byte :: rest) =
      .error ⟨.invalidContinuation, byte, position, position + good⟩ := by
  rw [decodeFrom]
  split
  · simp_all
  · split <;> simp_all

theorem decodeFrom_short (led : lead? byte.toNat = some lead)
    (read : readTail lead.low lead.high lead.share 1 lead.tails rest = .short) :
    decodeFrom position (byte :: rest) =
      .error ⟨.truncated, byte, position, position + (byte :: rest).length⟩ := by
  rw [decodeFrom]
  split
  · simp_all
  · split <;> simp_all

/-! ### Whole characters -/

/-- Bytes are whole characters, those of a text. -/
inductive Decodes : List UInt8 → Text → Prop
  | nil : Decodes [] []
  | cons {byte : UInt8} {rest after : List UInt8} {lead : Lead} {code : Nat} {text : Text}
      (led : lead? byte.toNat = some lead)
      (read : readTail lead.low lead.high lead.share 1 lead.tails rest = .complete code after)
      (more : Decodes after text) : Decodes (byte :: rest) (Char.ofNat code :: text)

/-- Wherever bytes begin, they are read as the text that they are the characters of. -/
theorem decodeFrom_eq_ok_iff {bytes : List UInt8} {text : Text} :
    decodeFrom position bytes = .ok text ↔ Decodes bytes text := by
  constructor
  · intro read
    induction position, bytes using decodeFrom.induct generalizing text with
    | case1 position =>
      rw [decodeFrom_nil] at read
      cases read
      exact .nil
    | case2 position byte rest unled =>
      rw [decodeFrom_unled unled] at read
      cases read
    | case3 position byte rest lead led code after found ih =>
      rw [decodeFrom_complete led found] at read
      cases inner : decodeFrom (position + ((byte :: rest).length - after.length)) after with
      | error flaw =>
        rw [inner] at read
        cases read
      | ok more =>
        rw [inner] at read
        cases read
        exact .cons led found (ih inner)
    | case4 position byte rest lead led good found =>
      rw [decodeFrom_wrong led found] at read
      cases read
    | case5 position byte rest lead led found =>
      rw [decodeFrom_short led found] at read
      cases read
  · intro characters
    induction characters generalizing position with
    | nil => exact decodeFrom_nil
    | cons led read more ih =>
      rw [decodeFrom_complete led read, ih]
      rfl

theorem decode_eq_ok_iff {bytes : List UInt8} {text : Text} :
    decode bytes = .ok text ↔ Decodes bytes text :=
  decodeFrom_eq_ok_iff

/-- Behind whole characters the reading goes on as if nothing were before them. -/
theorem Decodes.append_iff {front back : List UInt8} {before text : Text}
    (first : Decodes front before) :
    Decodes (front ++ back) text ↔ ∃ more, Decodes back more ∧ text = before ++ more := by
  induction first generalizing text with
  | nil => simp
  | @cons byte rest after lead code before led read _ ih =>
    obtain ⟨taken, rfl, anyway⟩ := readTail_eq_complete read
    have further := anyway (after ++ back)
    rw [← List.append_assoc] at further
    constructor
    · rintro (_ | ⟨ledAgain, readAgain, more⟩)
      cases led.symm.trans ledAgain
      cases further.symm.trans readAgain
      obtain ⟨behind, characters, rfl⟩ := ih.mp more
      exact ⟨behind, characters, rfl⟩
    · rintro ⟨behind, characters, rfl⟩
      exact .cons led further (ih.mpr ⟨behind, characters, rfl⟩)

/-- **Where the reading stops.** Whole characters are before that place, and unless the bytes merely
end too early no further bytes make a text of them. -/
theorem decodeFrom_eq_error {bytes : List UInt8} {flaw : Fault}
    (fails : decodeFrom position bytes = .error flaw) :
    ∃ front back before, bytes = front ++ back ∧ Decodes front before ∧
      flaw.start = position + front.length ∧
      (flaw.reason ≠ .truncated → ∀ more text, ¬ Decodes (back ++ more) text) := by
  induction position, bytes using decodeFrom.induct generalizing flaw with
  | case1 position =>
    rw [decodeFrom_nil] at fails
    cases fails
  | case2 position byte rest unled =>
    rw [decodeFrom_unled unled] at fails
    cases fails
    refine ⟨[], byte :: rest, [], rfl, .nil, rfl, fun _ more text characters => ?_⟩
    cases characters with
    | cons led _ _ => exact Option.some_ne_none _ (led.symm.trans unled)
  | case3 position byte rest lead led code after found ih =>
    rw [decodeFrom_complete led found] at fails
    cases inner : decodeFrom (position + ((byte :: rest).length - after.length)) after with
    | ok text =>
      rw [inner] at fails
      cases fails
    | error cause =>
      rw [inner] at fails
      cases fails
      obtain ⟨front, back, before, rfl, characters, start, stuck⟩ := ih inner
      obtain ⟨taken, rfl, anyway⟩ := readTail_eq_complete found
      refine ⟨byte :: (taken ++ front), back, Char.ofNat code :: before, ?_,
        .cons led (anyway front) characters, ?_, stuck⟩
      · rw [List.cons_append, List.append_assoc]
      · rw [start]
        simp only [List.length_cons, List.length_append]
        omega
  | case4 position byte rest lead led good found =>
    rw [decodeFrom_wrong led found] at fails
    cases fails
    refine ⟨[], byte :: rest, [], rfl, .nil, rfl, fun _ more text characters => ?_⟩
    cases characters with
    | cons ledAgain read _ =>
      cases led.symm.trans ledAgain
      have wrong := readTail_append_wrong more found
      cases wrong.symm.trans read
  | case5 position byte rest lead led found =>
    rw [decodeFrom_short led found] at fails
    cases fails
    exact ⟨[], byte :: rest, [], rfl, .nil, rfl, fun other => absurd rfl other⟩

/-! ### Pieces -/

/-- **The characters of a piece** stand at its beginning, and what is held back behind them may go on. -/
theorem decodePiece_eq_ok {piece left : List UInt8} {text : Text}
    (read : decodePiece piece = .ok (text, left)) : ∃ front, piece = front ++ left ∧ Decodes front text := by
  unfold decodePiece at read
  split at read
  · next decodes =>
    cases read
    exact ⟨piece, (List.append_nil _).symm, decode_eq_ok_iff.mp decodes⟩
  · split at read
    · split at read
      · next decodes =>
        cases read
        exact ⟨_, (List.take_append_drop ..).symm, decode_eq_ok_iff.mp decodes⟩
      · cases read
    · cases read

/-- A piece that cannot be read is the beginning of no text. -/
theorem not_decodes_of_decodePiece_eq_error {piece : List UInt8} {flaw : Fault}
    (fails : decodePiece piece = .error flaw) (more : List UInt8) (text : Text) :
    ¬ Decodes (piece ++ more) text := by
  unfold decodePiece at fails
  cases read : decode piece with
  | ok whole =>
    rw [read] at fails
    cases fails
  | error cause =>
    rw [read] at fails
    obtain ⟨front, back, before, split, characters, start, stuck⟩ := decodeFrom_eq_error read
    rw [Nat.zero_add] at start
    dsimp only at fails
    split at fails
    · rw [split, start, List.take_left, decode_eq_ok_iff.mpr characters] at fails
      cases fails
    · next broken =>
      rw [split, List.append_assoc, characters.append_iff]
      rintro ⟨behind, further, _⟩
      exact stuck broken more behind further

end Utf8

/-! ### What a loader comes to -/

namespace Loader

variable {loader : Loader} {past : Text} {held bytes : List UInt8}

/-- The texts that a loader has read each time it reads on, and at last. -/
def frontsFrom (loader : Loader) (past : Text) (held bytes : List UInt8) : List Text :=
  if _more : bytes = [] then [past]
  else
    match Utf8.decodePiece (held ++ bytes.take (loader.size past held)) with
    | .ok (text, left) => past :: loader.frontsFrom (past ++ text) left (bytes.drop (loader.size past held))
    | .error _ => [past]
termination_by bytes.length
decreasing_by exact loader.length_drop_size_lt past held _more

/-- The texts that a loader has read each time it reads on in the bytes of a file, and at last. -/
def fronts (loader : Loader) (bytes : List UInt8) : List Text := loader.frontsFrom [] [] bytes

theorem exists_frontsFrom_eq_cons (loader : Loader) (past : Text) (held bytes : List UInt8) :
    ∃ later, loader.frontsFrom past held bytes = past :: later := by
  unfold frontsFrom
  split
  · exact ⟨_, rfl⟩
  · split <;> exact ⟨_, rfl⟩

/-- The bytes of a piece and those behind it. -/
theorem append_take_append_drop (held bytes : List UInt8) (size : Nat) :
    held ++ bytes = held ++ bytes.take size ++ bytes.drop size := by
  rw [List.append_assoc, List.take_append_drop]

/-- **What a loader has read is whole characters** at the beginning of the bytes. -/
theorem decodes_of_mem_frontsFrom {front : Text} (listed : front ∈ loader.frontsFrom past held bytes) :
    ∃ read rest text, held ++ bytes = read ++ rest ∧ Utf8.Decodes read text ∧ front = past ++ text := by
  have here (past : Text) (held bytes : List UInt8) : ∃ read rest text, held ++ bytes = read ++ rest ∧
      Utf8.Decodes read text ∧ past = past ++ text :=
    ⟨[], held ++ bytes, [], rfl, .nil, (List.append_nil _).symm⟩
  fun_induction frontsFrom loader past held bytes with
  | case1 past held =>
    rw [List.mem_singleton.mp listed]
    exact here past held []
  | case2 past held bytes more text left piece ih =>
    rcases List.mem_cons.mp listed with rfl | listed
    · exact here _ held bytes
    · obtain ⟨read, rest, behind, split, characters, rfl⟩ := ih listed
      obtain ⟨first, whole, decodes⟩ := Utf8.decodePiece_eq_ok piece
      refine ⟨first ++ read, rest, text ++ behind, ?_, decodes.append_iff.mpr ⟨behind, characters, rfl⟩,
        List.append_assoc ..⟩
      rw [append_take_append_drop held bytes, whole, List.append_assoc, split, List.append_assoc]
  | case3 past held bytes more flaw piece =>
    rw [List.mem_singleton.mp listed]
    exact here past held bytes

/-- What a loader comes to behind a text with the bytes that follow it: it finds something wrong with one
of the texts that it has read, or it reads the bytes to their end, or it stops at bytes that are no text. -/
inductive Comes (loader : Loader) (past : Text) (fronts : List Text) (bytes : List UInt8) :
    Except HostFault Shared → Prop
  | early {fault : HostFault} (found : fronts.findSome? loader.early? = some fault) :
      Comes loader past fronts bytes (.error fault)
  | whole {text : Text} (quiet : fronts.findSome? loader.early? = none)
      (decodes : Utf8.Decodes bytes text) :
      Comes loader past fronts bytes (loader.whole (Utf8.universalLines (past ++ text)))
  | stuck {flaw : Utf8.Fault} (quiet : fronts.findSome? loader.early? = none)
      (broken : ∀ text, ¬ Utf8.Decodes bytes text) :
      Comes loader past fronts bytes (.error (.undecodable flaw))

/-- A loader that finds nothing wrong with a text comes to what it comes to behind some more characters. -/
theorem Comes.behind {read : List UInt8} {text : Text} {fronts : List Text}
    {result : Except HostFault Shared} (quiet : loader.early? past = none)
    (first : Utf8.Decodes read text) (comes : loader.Comes (past ++ text) fronts bytes result) :
    loader.Comes past (past :: fronts) (read ++ bytes) result := by
  have pass : (past :: fronts).findSome? loader.early? = fronts.findSome? loader.early? := by
    rw [List.findSome?_cons, quiet]
  cases comes with
  | early found => exact .early (pass.trans found)
  | @whole more silent decodes =>
    rw [List.append_assoc]
    exact .whole (pass.trans silent) (first.append_iff.mpr ⟨more, decodes, rfl⟩)
  | stuck silent broken =>
    refine .stuck (pass.trans silent) fun whole decodes => ?_
    obtain ⟨more, further, _⟩ := first.append_iff.mp decodes
    exact broken more further

/-- **Reading in pieces comes to the text of the whole**, unless the loader finds something wrong before. What
is held back of a piece are the bytes of a character that goes on in the next one. -/
theorem loadFrom_comes (loader : Loader) (past : Text) (held bytes : List UInt8) :
    loader.Comes past (loader.frontsFrom past held bytes) (held ++ bytes)
      (loader.loadFrom past held bytes) := by
  fun_induction loadFrom loader past held bytes with
  | case1 past held bytes fault found =>
    obtain ⟨later, listed⟩ := loader.exists_frontsFrom_eq_cons past held bytes
    rw [listed]
    exact .early (by rw [List.findSome?_cons, found])
  | case2 past held quiet text decodes =>
    rw [frontsFrom, dif_pos rfl, List.append_nil]
    exact .whole (by rw [List.findSome?_singleton, quiet]) (Utf8.decode_eq_ok_iff.mp decodes)
  | case3 past held quiet flaw fails =>
    rw [frontsFrom, dif_pos rfl, List.append_nil]
    refine .stuck (by rw [List.findSome?_singleton, quiet]) fun text decodes => ?_
    cases fails.symm.trans (Utf8.decode_eq_ok_iff.mpr decodes)
  | case4 past held bytes quiet more text left piece ih =>
    obtain ⟨read, whole, decodes⟩ := Utf8.decodePiece_eq_ok piece
    rw [frontsFrom, dif_neg more, piece, append_take_append_drop held bytes, whole, List.append_assoc]
    exact ih.behind quiet decodes
  | case5 past held bytes quiet more flaw piece =>
    rw [frontsFrom, dif_neg more, piece, append_take_append_drop held bytes]
    exact .stuck (by rw [List.findSome?_singleton, quiet])
      (Utf8.not_decodes_of_decodePiece_eq_error piece _)

theorem load_comes (loader : Loader) (bytes : List UInt8) :
    loader.Comes [] (loader.fronts bytes) bytes (loader.load bytes) :=
  loader.loadFrom_comes [] [] bytes

/-- What a loader finds wrong with bytes that it reads: it finds it in one of the texts that it has read, or,
if it finds nothing there, in the whole text. -/
inductive Objects (loader : Loader) (bytes : List UInt8) (fault : HostFault) : Prop
  | early (found : (loader.fronts bytes).findSome? loader.early? = some fault)
  | whole {text : Text} (quiet : (loader.fronts bytes).findSome? loader.early? = none)
      (decodes : Utf8.decode bytes = .ok text)
      (fails : loader.whole (Utf8.universalLines text) = .error fault)

/-- A loader makes a value of the bytes of a whole text with which nothing is wrong. -/
structure Makes (loader : Loader) (bytes : List UInt8) (text : Text) (shared : Shared) : Prop where
  quiet : (loader.fronts bytes).findSome? loader.early? = none
  decodes : Utf8.decode bytes = .ok text
  made : loader.whole (Utf8.universalLines text) = .ok shared

/-- A loader stops at bytes that are no text. -/
structure Stops (loader : Loader) (bytes : List UInt8) (flaw : Utf8.Fault) : Prop where
  quiet : (loader.fronts bytes).findSome? loader.early? = none
  broken : ∀ text, Utf8.decode bytes ≠ .ok text
  stopped : loader.load bytes = .error (.undecodable flaw)

/-- A loader whose faults are not found early is quiet. -/
theorem findSome?_fronts_eq_none
    (quiet : ∀ read rest text, bytes = read ++ rest → Utf8.decode read = .ok text → loader.early? text = none) :
    (loader.fronts bytes).findSome? loader.early? = none := by
  refine List.findSome?_eq_none_iff.mpr fun front listed => ?_
  obtain ⟨read, rest, text, split, decodes, same⟩ := decodes_of_mem_frontsFrom listed
  rw [same]
  exact quiet read rest text split (Utf8.decode_eq_ok_iff.mpr decodes)

theorem Objects.load {fault : HostFault} (objects : loader.Objects bytes fault) :
    loader.load bytes = .error fault := by
  have comes := loader.load_comes bytes
  generalize loader.load bytes = result at comes
  cases objects with
  | early found =>
    cases comes with
    | early again => cases found.symm.trans again; rfl
    | whole quiet _ => cases found.symm.trans quiet
    | stuck quiet _ => cases found.symm.trans quiet
  | @whole text quiet decodes fails =>
    cases comes with
    | early found => cases found.symm.trans quiet
    | whole _ again =>
      cases (Utf8.decode_eq_ok_iff.mpr again).symm.trans decodes
      exact fails
    | stuck _ broken => exact absurd (Utf8.decode_eq_ok_iff.mp decodes) (broken text)

theorem Makes.load {text : Text} {shared : Shared} (makes : loader.Makes bytes text shared) :
    loader.load bytes = .ok shared := by
  have comes := loader.load_comes bytes
  generalize loader.load bytes = result at comes
  cases comes with
  | early found => cases found.symm.trans makes.quiet
  | whole _ again =>
    cases (Utf8.decode_eq_ok_iff.mpr again).symm.trans makes.decodes
    exact makes.made
  | stuck _ broken => exact absurd (Utf8.decode_eq_ok_iff.mp makes.decodes) (broken text)

/-- **What can come of bytes**: the loader makes a value of them, or it finds something wrong with them, or it
stops at bytes that are no text. -/
theorem makes_or_objects_or_stops (loader : Loader) (bytes : List UInt8) :
    (∃ text shared, loader.Makes bytes text shared) ∨ (∃ fault, loader.Objects bytes fault) ∨
      ∃ flaw, loader.Stops bytes flaw := by
  have comes := loader.load_comes bytes
  generalize loaded : loader.load bytes = result at comes
  cases comes with
  | early found => exact Or.inr (Or.inl ⟨_, .early found⟩)
  | @whole text quiet characters =>
    have decodes := Utf8.decode_eq_ok_iff.mpr characters
    cases made : loader.whole (Utf8.universalLines ([] ++ text)) with
    | ok shared => exact Or.inl ⟨text, shared, quiet, decodes, made⟩
    | error fault => exact Or.inr (Or.inl ⟨fault, .whole quiet decodes made⟩)
  | stuck quiet broken =>
    exact Or.inr (Or.inr ⟨_, quiet, fun text decodes => broken text (Utf8.decode_eq_ok_iff.mp decodes), loaded⟩)

end Loader

namespace World

variable {loader : Loader} {world : World} {path : Path}

/-! ### What reading comes to -/

/-- What is found at a path: the value of a document, or nothing that has a value. -/
inductive Finds (loader : Loader) (world : World) (path : Path) : Option Value → Prop
  | absent (nothing : world.exists? path = .ok false) : Finds loader world path none
  /-- What is there is a directory or may not be opened. -/
  | closed {fault : HostFault} (there : world.exists? path = .ok true)
      (closed : world.readBytes path = .error fault) : Finds loader world path none
  /-- The loader finds that the bytes are malformed. -/
  | malformed {bytes : List UInt8} {fault : HostFault} (there : world.exists? path = .ok true)
      (opened : world.readBytes path = .ok bytes) (objects : loader.Objects bytes fault)
      (excused : fault.isExcused = true) : Finds loader world path none
  | empty {bytes : List UInt8} {text : Text} {shared : Shared} (there : world.exists? path = .ok true)
      (opened : world.readBytes path = .ok bytes) (makes : loader.Makes bytes text shared)
      (null : shared.value.isNull = true) : Finds loader world path none
  | document {bytes : List UInt8} {text : Text} {shared : Shared} (there : world.exists? path = .ok true)
      (opened : world.readBytes path = .ok bytes) (makes : loader.Makes bytes text shared)
      (filled : shared.value.isNull = false) : Finds loader world path (some shared.value)

/-- Reading breaks off although a default is given. -/
inductive Breaks (loader : Loader) (world : World) (path : Path) : HostFault → Prop
  /-- It cannot be said whether the path leads anywhere. -/
  | unexamined {obstacle : Obstacle} (spoken : isUnspeakable path = false)
      (stuck : world.lookUp path = .error obstacle) (isFault : obstacle.isFault = true) :
      Breaks loader world path (.obstacle obstacle path)
  /-- The bytes of the file are no text, and the loader comes to see it. -/
  | undecodable {bytes : List UInt8} {flaw : Utf8.Fault} (there : world.exists? path = .ok true)
      (opened : world.readBytes path = .ok bytes) (stops : loader.Stops bytes flaw) :
      Breaks loader world path (.undecodable flaw)
  /-- The loader cannot go on, and not because the bytes are malformed. -/
  | objected {bytes : List UInt8} {fault : HostFault} (there : world.exists? path = .ok true)
      (opened : world.readBytes path = .ok bytes) (objects : loader.Objects bytes fault)
      (strict : fault.isExcused = false) : Breaks loader world path fault

/-- What cannot be opened is excused. -/
theorem isExcused_of_readBytes {fault : HostFault} (closed : world.readBytes path = .error fault) :
    fault.isExcused = true := by
  unfold readBytes at closed
  split at closed
  · split at closed
    · cases closed
    · cases closed
      rfl
  · split at closed
    · cases closed
      rfl
    · cases closed
      rfl
  · cases closed
    rfl

/-- A default stands for all that counts as missing or malformed. -/
theorem readDataOr_of_there (there : world.exists? path = .ok true) (default : Value) :
    world.readDataOr loader path default false =
      match world.readBytes path >>= loader.load with
      | .ok shared => .ok (if shared.value.isNull then default else shared.value)
      | .error fault => if fault.isExcused then .ok default else .error fault := by
  unfold readDataOr loadFile
  simp only [bind, Except.bind, there, if_true, Bool.not_false, Bool.and_true]
  rfl

theorem readDataOr_of_opened {bytes : List UInt8} (there : world.exists? path = .ok true)
    (opened : world.readBytes path = .ok bytes) (default : Value) :
    world.readDataOr loader path default false =
      match loader.load bytes with
      | .ok shared => .ok (if shared.value.isNull then default else shared.value)
      | .error fault => if fault.isExcused then .ok default else .error fault := by
  rw [readDataOr_of_there there, opened]
  rfl

theorem Finds.readDataOr {found : Option Value} (finds : Finds loader world path found) (default : Value) :
    world.readDataOr loader path default false = .ok (found.getD default) := by
  cases finds with
  | absent nothing =>
    unfold World.readDataOr
    rw [nothing]
    rfl
  | closed there closed =>
    rw [readDataOr_of_there there, closed]
    simp [bind, Except.bind, isExcused_of_readBytes closed]
  | malformed there opened objects excused =>
    rw [readDataOr_of_opened there opened, objects.load]
    simp [excused]
  | empty there opened makes null =>
    rw [readDataOr_of_opened there opened, makes.load]
    simp [null]
  | document there opened makes filled =>
    rw [readDataOr_of_opened there opened, makes.load]
    simp [filled]

theorem Breaks.readDataOr {fault : HostFault} (breaks : Breaks loader world path fault) (default : Value) :
    world.readDataOr loader path default false = .error fault := by
  cases breaks with
  | unexamined spoken stuck isFault =>
    unfold World.readDataOr
    rw [exists?_eq_error_iff.mpr ⟨spoken, _, stuck, isFault, rfl⟩]
    rfl
  | undecodable there opened stops =>
    rw [readDataOr_of_opened there opened, stops.stopped]
    rfl
  | objected there opened objects strict =>
    rw [readDataOr_of_opened there opened, objects.load]
    simp [strict]

/-- Whatever a path leads to, something or nothing is found there, or the reading breaks off. -/
theorem finds_or_breaks (loader : Loader) (world : World) (path : Path) :
    (∃ found, Finds loader world path found) ∨ ∃ fault, Breaks loader world path fault := by
  cases examined : world.exists? path with
  | error fault =>
    obtain ⟨spoken, obstacle, stuck, isFault, rfl⟩ := exists?_eq_error_iff.mp examined
    exact Or.inr ⟨_, .unexamined spoken stuck isFault⟩
  | ok there =>
    cases there with
    | false => exact Or.inl ⟨none, .absent examined⟩
    | true =>
      cases opened : world.readBytes path with
      | error fault => exact Or.inl ⟨none, .closed examined opened⟩
      | ok bytes =>
        rcases loader.makes_or_objects_or_stops bytes with
          ⟨text, shared, makes⟩ | ⟨fault, objects⟩ | ⟨flaw, stops⟩
        · cases null : shared.value.isNull with
          | true => exact Or.inl ⟨none, .empty examined opened makes null⟩
          | false => exact Or.inl ⟨some shared.value, .document examined opened makes null⟩
        · cases excused : fault.isExcused with
          | true => exact Or.inl ⟨none, .malformed examined opened objects excused⟩
          | false => exact Or.inr ⟨fault, .objected examined opened objects excused⟩
        · exact Or.inr ⟨_, .undecodable examined opened stops⟩

/-- **No default stands for bytes that are no text**, if the loader finds nothing wrong with the text at their
beginning. -/
theorem exists_breaks_of_broken {bytes : List UInt8} (there : world.exists? path = .ok true)
    (opened : world.readBytes path = .ok bytes) (broken : ∀ text, Utf8.decode bytes ≠ .ok text)
    (quiet : ∀ read rest text, bytes = read ++ rest → Utf8.decode read = .ok text → loader.early? text = none) :
    ∃ flaw, Breaks loader world path (.undecodable flaw) := by
  have silent := Loader.findSome?_fronts_eq_none quiet
  rcases loader.makes_or_objects_or_stops bytes with ⟨text, _, makes⟩ | ⟨fault, objects⟩ | ⟨flaw, stops⟩
  · exact absurd makes.decodes (broken text)
  · cases objects with
    | early found => cases silent.symm.trans found
    | @whole text _ decodes _ => exact absurd decodes (broken text)
  · exact ⟨flaw, .undecodable there opened stops⟩

/-- **What reading a data file comes to when a default may stand for it**, whatever loader reads it. -/
theorem readDataOr_outcome (loader : Loader) (world : World) (path : Path) (default : Value) :
    (∀ value, world.readDataOr loader path default false = .ok value ↔
      ∃ found, Finds loader world path found ∧ value = found.getD default) ∧
    (∀ fault, world.readDataOr loader path default false = .error fault ↔ Breaks loader world path fault) ∧
    ∀ bytes, world.exists? path = .ok true → world.readBytes path = .ok bytes →
      (∀ text, Utf8.decode bytes ≠ .ok text) →
      (∀ read rest text, bytes = read ++ rest → Utf8.decode read = .ok text → loader.early? text = none) →
      ∃ flaw, world.readDataOr loader path default false = .error (.undecodable flaw) := by
  have settled := finds_or_breaks loader world path
  refine ⟨fun value => ⟨fun returned => ?_, ?_⟩, fun fault => ⟨fun broken => ?_, ?_⟩,
    fun bytes there opened broken quiet => ?_⟩
  · rcases settled with ⟨found, finds⟩ | ⟨fault, breaks⟩
    · exact ⟨found, finds, Except.ok.inj (returned.symm.trans (finds.readDataOr default))⟩
    · cases returned.symm.trans (breaks.readDataOr default)
  · rintro ⟨found, finds, rfl⟩
    exact finds.readDataOr default
  · rcases settled with ⟨found, finds⟩ | ⟨cause, breaks⟩
    · cases broken.symm.trans (finds.readDataOr default)
    · cases broken.symm.trans (breaks.readDataOr default)
      exact breaks
  · exact fun breaks => breaks.readDataOr default
  · obtain ⟨flaw, breaks⟩ := exists_breaks_of_broken there opened broken quiet
    exact ⟨flaw, breaks.readDataOr default⟩

/-- A file of one byte that begins no character. -/
def spoiledWorld : World where
  files := { entries := [(["a.yaml"], .file [0xFF] 0)] }
  current := []
  environment := []

/-- Its reader gets no default. -/
theorem readDataOr_spoiled :
    spoiledWorld.readDataOr Yaml.loader ⟨.root, ["a.yaml"]⟩ .null false =
      .error (.undecodable ⟨.invalidStart, 0xFF, 0, 1⟩) := by
  cbv

/-- The byte is read, is no text, and no loader that waits for the whole text finds fault before. -/
theorem readDataOr_outcome_spoiled :
    spoiledWorld.readBytes ⟨.root, ["a.yaml"]⟩ = .ok [0xFF] ∧
      ∃ flaw, spoiledWorld.readDataOr Yaml.loader ⟨.root, ["a.yaml"]⟩ .null false =
        .error (.undecodable flaw) := by
  have there : spoiledWorld.exists? ⟨.root, ["a.yaml"]⟩ = .ok true := by cbv
  have opened : spoiledWorld.readBytes ⟨.root, ["a.yaml"]⟩ = .ok [0xFF] := by cbv
  have flawed : Utf8.decode [0xFF] = .error ⟨.invalidStart, 0xFF, 0, 1⟩ := by cbv
  have broken (text : Text) : Utf8.decode [0xFF] ≠ .ok text := by
    intro same
    cases flawed.symm.trans same
  exact ⟨opened, (readDataOr_outcome Yaml.loader spoiledWorld ⟨.root, ["a.yaml"]⟩ .null).2.2 [0xFF] there opened
    broken fun _ _ _ _ _ => rfl⟩

/-- **What can be wrong with the bytes that the loader of this library reads.** -/
theorem Breaks.isOfData {fault : HostFault} (breaks : Breaks Yaml.loader world path fault) :
    (∃ obstacle, obstacle.isFault = true ∧ fault = .obstacle obstacle path) ∨
      (∃ flaw, fault = .undecodable flaw) ∨ (fault.IsOfData ∧ fault ≠ .malformedData) := by
  cases breaks with
  | unexamined _ _ isFault => exact Or.inl ⟨_, isFault, rfl⟩
  | undecodable _ _ _ => exact Or.inr (Or.inl ⟨_, rfl⟩)
  | @objected bytes _ there opened objects strict =>
    have data : fault.IsOfData := by
      cases objects with
      | early found =>
        have quiet : (Yaml.loader.fronts bytes).findSome? Yaml.loader.early? = none :=
          Loader.findSome?_fronts_eq_none fun _ _ _ _ _ => rfl
        cases quiet.symm.trans found
      | whole _ _ fails => exact Yaml.readShared_eq_error fails
    refine Or.inr (Or.inr ⟨data, fun malformed => ?_⟩)
    rw [data.isExcused_iff.mpr malformed] at strict
    cases strict

end World

end PromptWeave
